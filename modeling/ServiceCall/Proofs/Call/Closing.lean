import ServiceCall.Proofs.Call.History
import ServiceCall.Proofs.Hooks.Pipeline

/-!
The end of a call. Once its result is known, a call tells the hooks, the listener, the metrics of
its client and the collector of it, all of them the same; nothing else happens any more.
-/

namespace ServiceCall

variable {σ α : Type}

/-! ### Being told -/

/-- What a listener, if there is one, makes of a milestone. -/
def Milestone.tellTo (listener : Option (MilestoneListener σ)) (event : Milestone) :
    StateM σ Unit :=
  match listener with
  | some tell => tell event
  | none => pure ()

namespace CallSetting

variable (s : CallSetting σ α)

/-- Metrics of a client that keeps none stay as they are. -/
def counted (f : ClientMetrics → ClientMetrics) (m : ClientMetrics) : ClientMetrics :=
  if s.client.config.metricsEnabled then f m else m

/-- What hooks and listener make of a result. -/
def tellResult (listener : Option (MilestoneListener σ)) (r : HttpRequest σ) :
    Except Error (Response α) → StateM σ Unit
  | .ok response => do
    Hook.afterResponseAll s.context.hooks r response.status response.headers
    Milestone.callSucceeded.tellTo listener
  | .error e => do
    Hook.afterErrorAll s.context.hooks r e
    Milestone.callFailed.tellTo listener

/-- What a collector, if there is one, makes of the metrics of a call. -/
def tellCollector (m : CallMetrics) : StateM σ Unit :=
  match s.client.collector with
  | some tell => tell m
  | none => pure ()

/-- What the journal says of the end of a call. -/
def closingEvents : Except Error (Response α) → Journal σ
  | .ok _ => HookPhase.afterResponse.ran s.places.reverse ++ [.milestone .callSucceeded]
  | .error _ => HookPhase.afterError.ran s.places.reverse ++ [.milestone .callFailed]

end CallSetting

/-- A call is counted by its result. -/
def ClientMetrics.completed (status : Option Nat) (m : ClientMetrics) :
    Except Error (Response α) → ClientMetrics
  | .ok _ => m.completedOk status
  | .error e => m.completedError e

namespace CallM

variable (s : CallSetting σ α) (run : Run σ)

theorem announceTo_eq (listener : Option (MilestoneListener σ)) (event : Milestone) :
    announceTo listener event run =
      .ok () { run with
        world := (event.tellTo listener run.world).2
        journal := run.journal ++ [.milestone event] } := by
  cases listener with
  | none => rfl
  | some tell => rfl

theorem countForClient_eq (f : ClientMetrics → ClientMetrics) :
    countForClient s f run =
      .ok () { run with client := { run.client with
        metrics := s.counted f run.client.metrics } } := by
  unfold countForClient CallSetting.counted
  split
  · rfl
  · rfl

theorem collect_eq :
    collect s run = .ok () { run with world := (s.tellCollector run.metrics run.world).2 } := by
  unfold collect CallSetting.tellCollector
  cases s.client.collector with
  | none => rfl
  | some tell => rfl

/-- Where a call ends that came to the result. -/
def closed (listener : Option (MilestoneListener σ)) (result : Except Error (Response α)) :
    Run σ :=
  let told := (s.tellResult listener run.request result run.world).2
  { run with
    world := (s.tellCollector run.metrics told).2
    client := { run.client with
      metrics := s.counted (fun m => (m.completed run.metrics.status result).ended)
        run.client.metrics }
    journal := run.journal ++ s.closingEvents result }

theorem bind_of_ok {β γ : Type} {act : CallM σ β} {f : β → CallM σ γ} {run run' : Run σ}
    {value : β} (h : act run = .ok value run') : (act >>= f) run = f value run' := by
  simp only [bind, EStateM.bind, h]

theorem finish_eq (listener : Option (MilestoneListener σ)) (result : Except Error (Response α)) :
    (do finish s listener result; collect s; countForClient s .ended; return result) run =
      .ok result (closed s run listener result) := by
  have hrest : ∀ run : Run σ,
      (do collect s; countForClient s .ended; return result) run =
        .ok result { run with
          world := (s.tellCollector run.metrics run.world).2
          client := { run.client with metrics := s.counted .ended run.client.metrics } } := by
    intro run
    rw [bind_of_ok (collect_eq s run), bind_of_ok (countForClient_eq s _ _)]
    rfl
  have hcount : ∀ m : ClientMetrics, s.counted .ended
      (s.counted (fun m => m.completed run.metrics.status result) m) =
        s.counted (fun m => (m.completed run.metrics.status result).ended) m := by
    intro m
    unfold CallSetting.counted
    split
    · rfl
    · rfl
  cases result with
  | ok response =>
    unfold finish
    simp only [bind_assoc]
    rw [bind_of_ok (afterResponse_eq s run response), bind_of_ok (announceTo_eq _ listener _)]
    refine (bind_of_ok (countForClient_eq s _ _)).trans ((hrest _).trans ?_)
    simp only [closed, CallSetting.closingEvents, ← hcount, List.append_assoc]
    rfl
  | error e =>
    unfold finish
    simp only [bind_assoc]
    rw [bind_of_ok (afterError_eq s run e), bind_of_ok (announceTo_eq _ listener _),
      bind_of_ok (countForClient_eq s _ _), hrest]
    simp only [closed, CallSetting.closingEvents, ← hcount, List.append_assoc]
    rfl

end CallM

namespace Client

variable {c : Client σ} {handlers : Handlers σ α} {context : CallContext σ} {state : ClientState}
  {request : HttpRequest σ} {world : σ}

/-- What a call that has come to its result reports, and where it leaves the world. -/
theorem StandsAfter.call_eq {n : Nat} {result : Except Error (Response α)} {conducted : Run σ}
    (h : c.StandsAfter handlers context state request world n (.ended result) conducted) :
    c.call handlers context state request world =
      let s := c.settingAt handlers context request world
      let last := CallM.closed s conducted request.subject.listener result
      ({ result
         request := conducted.request
         context :=
          { context with metrics := conducted.metrics, tookCapacity := conducted.tookCapacity }
         client := last.client
         journal := last.journal }, last.world) := by
  obtain ⟨m, -, begun, result', conducted', hbegin, hconduct, hm⟩ :=
    CallM.step_conduct (c.settingAt handlers context request world) (c.runAt state request world)
  obtain ⟨hphase, rfl⟩ := Prod.mk.inj (h.ended_unique hm)
  obtain rfl := Phase.ended.inj hphase
  have hcall : CallM.call (c.settingAt handlers context request world)
      (c.runAt state request world) =
        .ok result (CallM.closed (c.settingAt handlers context request world) conducted
          request.subject.listener result) := by
    unfold CallM.call
    rw [CallM.bind_of_ok (rfl : CallM.request _ = _), CallM.bind_of_ok hbegin,
      CallM.bind_of_ok hconduct]
    exact CallM.finish_eq ..
  unfold settingAt runAt at hcall
  simp only [Client.call, h.1, Bool.false_eq_true, if_false]
  split
  next now woken hnow =>
    rw [hnow] at hcall
    rw [hcall]
    simp only [settingAt, hnow]
    rfl

end Client

end ServiceCall
