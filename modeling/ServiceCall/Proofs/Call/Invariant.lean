import ServiceCall.Proofs.Call.Turns

/-!
Invariants of a call. What depends on nothing but the loud effects has to be shown of the hooks
before the first attempt, and then of signing, of dispatching and of the correction of the clock.
-/

namespace ServiceCall

variable {σ α : Type}

/-- What, once the attempts have begun, is left to signing, dispatching and the correction of the
clock. -/
def loudEffects : List Effect :=
  [.request .subject, .request .method, .request .timeOffset, .request .notes, .clockOffset,
    .records .signing, .records .dispatched, .records .clockSkewed]

structure CallInvariant (s : CallSetting σ α) (watched : List Effect) (I : Run σ → Prop) :
    Prop where
  dependsOn : DependsOn watched I
  loud : watched ⊆ loudEffects
  sign : ∀ signer credentials run, I run →
    CallM.Ends (CallM.sign signer credentials) run (fun _ => I) fun _ => I
  dispatch : ∀ limit run, I run →
    CallM.Ends (CallM.dispatch s limit) run (fun _ => I) fun _ => I
  correctClock : ∀ headers e run, I run →
    CallM.Ends (CallM.correctClock s headers e) run (fun _ => I) fun _ => I

namespace CallInvariant

open CallM

variable {s : CallSetting σ α} {watched effects : List Effect} {I : Run σ → Prop} {run run' : Run σ}

theorem keeps {β : Type} {act : CallM σ β} (hI : CallInvariant s watched I)
    (hact : Footprint effects act) (hn : ∀ effect ∈ loudEffects, effect ∉ effects) (h : I run) :
    Ends act run (fun _ => I) fun _ => I :=
  hact.keeps hI.dependsOn (fun effect hw => hn effect (hI.loud hw)) h

theorem frame (hI : CallInvariant s watched I) (hf : Frame effects run run')
    (hn : ∀ effect ∈ loudEffects, effect ∉ effects) (h : I run) : I run' :=
  hI.dependsOn effects run run' (fun effect hw => hn effect (hI.loud hw)) hf h

variable (hI : CallInvariant s watched I)

include hI

theorem attemptInvariant : AttemptInvariant s watched I fun _ => I where
  dependsOn := hI.dependsOn
  apart := fun effect hw =>
    (by decide : ∀ effect ∈ loudEffects, effect ∉ answerEffects) effect (hI.loud hw)
  complete := fun status handled r _ h =>
    hI.keeps (complete_footprint s status handled r) (by decide) h
  correctClock := hI.correctClock
  quiet := fun effect hw =>
    (by decide : ∀ effect ∈ loudEffects, effect ∉ turnEffects) effect (hI.loud hw)
  sign := hI.sign
  dispatch := hI.dispatch
  admits := fun o failure number _ h =>
    hI.keeps (admits_footprint s o failure number) (by decide) h

/-- What holds of every run before the first attempt holds at the end of the call. -/
theorem call (hout : ∀ outset, Frame (beginEffects ++ outsetEffects) run outset → I outset) :
    Ends (call s) run (fun _ => I) fun _ _ => False := by
  have hlast : ∀ conducted, I conducted → ∀ last, Frame finishEffects conducted last → I last :=
    fun conducted h last hf => hI.frame hf (by decide) h
  have hundo : ∀ run, I run → I (rewind (giveCapacityBack s run)) := fun run h =>
    hI.frame (rewind_frame _) (by decide) (hI.frame (giveCapacityBack_frame s run) (by decide) h)
  refine call_ends fun begun _ hbegun => ?_
  have hset : ∀ outset, Frame outsetEffects begun outset → I outset := fun outset hf =>
    hout outset ((hbegun.mono (by decide)).trans (hf.mono (by decide)))
  refine (conduct_ends (fun _ => hset) fun outset _ hf => ?_).mono (fun _ => hlast) fun _ => hlast
  exact (hI.attemptInvariant.attempts (hset outset hf)).mono (fun _ _ h => h) fun _ => hundo

end CallInvariant

end ServiceCall
