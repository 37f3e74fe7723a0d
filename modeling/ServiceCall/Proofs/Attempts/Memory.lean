import ServiceCall.Proofs.Attempts.Interruption
import ServiceCall.Proofs.Attempts.LastAttempt
import ServiceCall.Proofs.Attempts.Pace

/-!
What a call remembers of its attempts: how long the rule for pauses said last to pause, and whether
its body can be sent again. The latter is asked of the body anew for every pause, so somebody who
replaces the body can change it.
-/

namespace ServiceCall

variable {σ α : Type}

namespace Body

variable {b b' : Body}

end Body

/-- The call remembers the last delay, and a body that could be sent again at first still can,
unless somebody has replaced it. -/
structure Faithful (c : Client σ) (o : Origin) (run : Run σ) : Prop where
  lastBackoff : run.lastBackoff = run.journal.lastDelay
  body : SparesBody c run.journal → o.repeatable = true → run.request.body.isRepeatable = true

/-- The effects by which a call might forget the last delay. -/
def delayEffects : List Effect := [.lastBackoff, .records .backoffAsked]

section

variable {c : Client σ} {o : Origin} {run run' : Run σ} {effects : List Effect}

theorem lastDelay_dependsOn (delay : Duration) :
    DependsOn [.records .backoffAsked] fun run : Run σ => run.journal.lastDelay = delay := by
  intro effects run run' hn hf h
  obtain ⟨new, hnew, hk⟩ := hf.journal
  rw [hnew, Journal.lastDelay_append fun e he heq => hn _ (.head _) (heq ▸ hk e he), h]

theorem lastBackoff_dependsOn :
    DependsOn delayEffects fun run : Run σ => run.lastBackoff = run.journal.lastDelay := by
  intro effects run run' hn hf h
  have hsame : run'.lastBackoff = run.lastBackoff := hf.spares .lastBackoff (hn _ (.head _))
  rw [hsame, h]
  exact (lastDelay_dependsOn _ _ _ _ (fun effect hw => hn effect (.tail _ hw)) hf rfl).symm

theorem Faithful.touched (h : Faithful c o run) (hf : Frame effects run run')
    (hn : ∀ effect ∈ delayEffects, effect ∉ effects)
    (htouch : SparesBody c run'.journal → run.request.StaysRepeatable run'.request) :
    Faithful c o run' := by
  refine ⟨lastBackoff_dependsOn _ _ _ hn hf h.lastBackoff, fun hspares hrep => ?_⟩
  obtain ⟨new, hnew, -⟩ := hf.journal
  exact htouch hspares (h.body (hnew ▸ hspares).of_append hrep)

theorem faithful_dependsOn : DependsOn (.request .body :: delayEffects) (Faithful c o) := by
  intro effects run run' hn hf h
  have hbody : run'.request.body = run.request.body := hf.part (hn (.request .body) (.head _))
  refine h.touched hf (fun effect hw => hn effect (.tail _ hw)) fun _ hrep => ?_
  rwa [hbody]

end

namespace CallM

variable {s : CallSetting σ α} {o : Origin} {run : Run σ} {effects : List Effect}

theorem Footprint.faithful {β : Type} {act : CallM σ β} {c : Client σ}
    (hact : Footprint effects act)
    (hn : ∀ effect ∈ .request .body :: delayEffects, effect ∉ effects) (h : Faithful c o run) :
    Ends act run (fun _ => Faithful c o) fun _ _ => True :=
  (hact.keeps faithful_dependsOn hn h).mono_failed fun _ _ _ => trivial

end CallM

end ServiceCall
