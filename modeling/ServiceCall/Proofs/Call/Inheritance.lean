import ServiceCall.Proofs.Call.Exchange

/-!
Inheritance. What an action has as soon as its parts have it need not be shown of every action
anew. Of what is made of an answer, the parts that count something are the only ones of which it
has to be shown.
-/

namespace ServiceCall.CallM

variable {σ α β : Type}

/-- What counters have to do with. -/
def meterEffects : List Effect := [.metrics, .clientMetrics, .records .capacityTaken]

/-- All actions have it that have nothing to do with counters, and an action whose parts have it. -/
structure Inherited (P : ∀ β : Type, CallM σ β → Prop) : Prop where
  quiet : ∀ {β : Type} {effects : List Effect} {act : CallM σ β}, Footprint effects act →
    (∀ effect ∈ meterEffects, effect ∉ effects) → P β act
  bind : ∀ {β γ : Type} {act : CallM σ β} {f : β → CallM σ γ}, P β act →
    (∀ value, P γ (f value)) → P γ (act >>= f)

namespace Inherited

variable {P : ∀ β : Type, CallM σ β → Prop} (hP : Inherited P)

include hP

theorem pure (value : β) : P β (Pure.pure value) :=
  hP.quiet (.pure value : Footprint [] _) (by simp)

theorem throw (e : Error) : P β (MonadExcept.throw e) :=
  hP.quiet (.throw e.code rfl (.head _) : Footprint [.fails e.code] _) (by simp [meterEffects])

theorem request : P (HttpRequest σ) CallM.request :=
  hP.quiet (.request : Footprint [] _) (by simp)

theorem perform (act : StateM σ β) : P β (CallM.perform act) :=
  hP.quiet (.perform act : Footprint [] _) (by simp)

theorem record {e : Event σ} (he : e.kind ≠ .capacityTaken) : P Unit (CallM.record e) :=
  hP.quiet (.record e.kind rfl (.head _) : Footprint [.records e.kind] _)
    (by simpa [meterEffects] using he.symm)

variable {s : CallSetting σ α} {authAllowed : Bool}

/-! ### What is made of an answer -/

theorem askAuthRetry (e : ServiceError) :
    P (Outcome σ α authAllowed) (CallM.askAuthRetry s e) := by
  unfold CallM.askAuthRetry
  split
  · exact hP.pure _
  · refine hP.bind hP.request fun r => ?_
    split
    · refine hP.bind (hP.perform _) fun answer =>
        hP.bind (hP.record (by simp [Event.kind])) fun _ => ?_
      split
      · exact hP.pure _
      · exact hP.pure _
    · exact hP.pure _

/-- Throttling failures and corrections of the clock are counted. -/
theorem onFailureResponse (hthrottle : ∀ e, P Unit (countThrottle s e))
    (hclock : ∀ headers e, P Unit (correctClock s headers e)) (r : HttpResponse) :
    P (Outcome σ α authAllowed) (CallM.onFailureResponse s r) := by
  unfold CallM.onFailureResponse
  refine hP.bind (hP.quiet (readFailure_footprint s r) (by decide)) fun answer => ?_
  split
  · split
    · exact hP.pure _
    · exact hP.throw _
  · exact hP.bind (hthrottle _) fun _ => hP.bind (hclock _ _) fun _ => hP.askAuthRetry _

theorem onRedirect (location : String) :
    P (Outcome σ α authAllowed) (CallM.onRedirect location) := by
  unfold CallM.onRedirect
  refine hP.bind hP.request fun r => ?_
  split
  · exact hP.pure _
  · split
    · exact hP.pure _
    · exact hP.throw _

theorem handleResult (status : Status) (reason : Option String) (r : HttpResponse) :
    P (Outcome σ α authAllowed) (CallM.handleResult s status reason r) := by
  unfold CallM.handleResult
  refine hP.bind (hP.record (by simp [Event.kind])) fun _ => hP.bind (hP.perform _) fun answer => ?_
  split
  · exact hP.bind (hP.quiet (complete_footprint s _ _ _) (by decide)) fun _ => hP.pure _
  · exact hP.throw _
  · exact hP.pure _
  · exact hP.throw _

theorem onSuccess (r : HttpResponse) :
    P (Outcome σ α authAllowed) (CallM.onSuccess s r) := by
  have hannounce : ∀ event, P Unit (announce event) := fun event =>
    hP.quiet (announce_footprint event) (by decide)
  have hhandle : ∀ r : HttpResponse, P (Outcome σ α authAllowed)
      (do CallM.handleResult s r.status r.reason (← beforeUnmarshal s r)) := fun r =>
    hP.bind (hP.quiet (beforeUnmarshal_footprint s r) (by decide)) fun _ => hP.handleResult _ _ _
  unfold CallM.onSuccess
  dsimp only
  split
  · exact hP.pure _
  · refine hP.bind (hannounce _) fun _ => ?_
    split
    · exact hP.bind (hannounce _) fun _ => hhandle _
    · exact hhandle _

theorem onNoResponse (e : TransportError) (limit : Option Duration) :
    P (Outcome σ α authAllowed) (CallM.onNoResponse s e limit) := by
  unfold CallM.onNoResponse
  refine hP.bind (hP.quiet (timeIsUp_footprint s) (by decide)) fun _ => ?_
  split
  · exact hP.bind hP.request fun _ => hP.throw _
  · exact hP.bind hP.request fun _ => hP.pure _

end Inherited

end ServiceCall.CallM
