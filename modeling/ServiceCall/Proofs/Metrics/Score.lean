import ServiceCall.Proofs.Call.Admission
import ServiceCall.Proofs.Call.Inheritance
import ServiceCall.Proofs.Call.Phases

/-!
What a call counts. Each counter that a client keeps of its attempts has a counterpart in the
metrics of the call; from one run to a later one both rise by the same score, and what a client
counts only of whole calls stays as it is.
-/

namespace ServiceCall

variable {σ α β γ : Type}

/-! ### Scores -/

/-- By how much the counters rise. -/
structure Score where
  attempts : Nat := 0
  retries : Nat := 0
  redirects : Nat := 0
  exceptions : Nat := 0

namespace Score

def plus (n m : Score) : Score where
  attempts := n.attempts + m.attempts
  retries := n.retries + m.retries
  redirects := n.redirects + m.redirects
  exceptions := n.exceptions + m.exceptions

end Score

/-- What a client counts when a call begins or ends. -/
def ClientMetrics.ofCalls (m : ClientMetrics) : ClientMetrics where
  started := m.started
  succeeded := m.succeeded
  failed := m.failed
  inFlight := m.inFlight
  latencies := m.latencies
  statuses := m.statuses
  errors := m.errors

/-- From the first run to the second one the counters rise by the score. A throttling failure is
counted by both the call and the client, and a status is not forgotten. -/
structure Counted (n : Score) (run run' : Run σ) : Prop where
  requests : run'.metrics.requests = run.metrics.requests + n.attempts
  exceptions : run'.metrics.exceptions = run.metrics.exceptions + n.exceptions
  attempts : run'.client.metrics.attempts = run.client.metrics.attempts + n.attempts
  retries : run'.client.metrics.retries = run.client.metrics.retries + n.retries
  redirects : run'.client.metrics.redirects = run.client.metrics.redirects + n.redirects
  throttles : ∃ k, run'.metrics.throttles = run.metrics.throttles + k ∧
    run'.client.metrics.throttles = run.client.metrics.throttles + k
  ofCalls : run'.client.metrics.ofCalls = run.client.metrics.ofCalls
  status : run.metrics.status.isSome → run'.metrics.status.isSome

namespace Counted

variable {n m : Score} {run run' run'' : Run σ} {effects : List Effect}

theorem refl (run : Run σ) : Counted {} run run :=
  ⟨rfl, rfl, rfl, rfl, rfl, ⟨0, rfl, rfl⟩, rfl, id⟩

theorem trans (h : Counted n run run') (h' : Counted m run' run'') :
    Counted (n.plus m) run run'' := by
  obtain ⟨k, hk, hk'⟩ := h.throttles
  obtain ⟨l, hl, hl'⟩ := h'.throttles
  constructor
  · rw [h'.requests, h.requests, Nat.add_assoc]
    rfl
  · rw [h'.exceptions, h.exceptions, Nat.add_assoc]
    rfl
  · rw [h'.attempts, h.attempts, Nat.add_assoc]
    rfl
  · rw [h'.retries, h.retries, Nat.add_assoc]
    rfl
  · rw [h'.redirects, h.redirects, Nat.add_assoc]
    rfl
  · exact ⟨k + l, by rw [hl, hk, Nat.add_assoc], by rw [hl', hk', Nat.add_assoc]⟩
  · exact h'.ofCalls.trans h.ofCalls
  · exact h'.status ∘ h.status

/-- What counts nothing on the way makes no difference. -/
theorem then_zero (h : Counted n run run') (h' : Counted {} run' run'') : Counted n run run'' :=
  h.trans h'

theorem of_eq (hm : run'.metrics = run.metrics)
    (hc : run'.client.metrics = run.client.metrics) : Counted {} run run' := by
  constructor <;> simp only [hm, hc, Nat.add_zero]
  · exact ⟨0, rfl, rfl⟩
  · exact id

theorem of_frame (hf : Frame effects run run') (hm : .metrics ∉ effects)
    (hc : .clientMetrics ∉ effects) : Counted {} run run' :=
  .of_eq (hf.spares .metrics hm) (hf.spares .clientMetrics hc)

end Counted

namespace CallM

/-! ### Actions that count nothing -/

/-- From every run the action counts nothing but throttling failures and the status. -/
structure Uncounted (act : CallM σ β) : Prop where
  ends : ∀ run, Ends act run (fun _ => Counted {} run) fun _ => Counted {} run

namespace Uncounted

variable {act : CallM σ β} {f : β → CallM σ γ} {effects : List Effect}

theorem of_footprint (h : Footprint effects act) (hm : .metrics ∉ effects)
    (hc : .clientMetrics ∉ effects) : Uncounted act :=
  ⟨fun run => (h.ends run).mono (fun _ _ hf => .of_frame hf hm hc) fun _ _ hf =>
    .of_frame hf.1 hm hc⟩

theorem pure (value : β) : Uncounted (Pure.pure value : CallM σ β) := ⟨Counted.refl⟩

theorem bind (h : Uncounted act) (hf : ∀ value, Uncounted (f value)) : Uncounted (act >>= f) := by
  refine ⟨fun run => (h.ends run).bind fun value run' hrun' => ?_⟩
  exact ((hf value).ends run').mono (fun _ _ h => hrun'.then_zero h) fun _ _ h => hrun'.then_zero h

theorem inherited : Inherited fun β (act : CallM σ β) => Uncounted act where
  quiet := fun hact hn => .of_footprint hact (hn _ (by decide)) (hn _ (by decide))
  bind := bind

theorem ite {c : Prop} [Decidable c] {act act' : CallM σ β} (h : Uncounted act)
    (h' : Uncounted act') : Uncounted (if c then act else act') := by
  split
  · exact h
  · exact h'

theorem request : Uncounted (CallM.request : CallM σ (HttpRequest σ)) := ⟨Counted.refl⟩

theorem get : Uncounted (MonadState.get : CallM σ (Run σ)) := ⟨Counted.refl⟩

theorem update {f : Run σ → Run σ} (hm : ∀ run, (f run).metrics = run.metrics)
    (hc : ∀ run, (f run).client.metrics = run.client.metrics) :
    Uncounted (modify f : CallM σ Unit) := ⟨fun run => .of_eq (hm run) (hc run)⟩

theorem record (e : Event σ) : Uncounted (CallM.record e) := ⟨fun _ => .of_eq rfl rfl⟩

theorem perform (act : StateM σ β) : Uncounted (CallM.perform act) := ⟨fun _ => .of_eq rfl rfl⟩

theorem revise (f : HttpRequest σ → HttpRequest σ) : Uncounted (CallM.revise f) :=
  ⟨fun _ => .of_eq rfl rfl⟩

/-- Something else is counted of the call. -/
theorem count (f : CallMetrics → CallMetrics)
    (h : ∀ m, (f m).requests = m.requests ∧ (f m).exceptions = m.exceptions ∧
      (f m).throttles = m.throttles ∧ (m.status.isSome → (f m).status.isSome)) :
    Uncounted (CallM.count f : CallM σ Unit) := by
  refine ⟨fun run => (ends_count f).mpr ?_⟩
  obtain ⟨hrequests, hexceptions, hthrottles, hstatus⟩ := h run.metrics
  exact ⟨hrequests, hexceptions, rfl, rfl, rfl, ⟨0, hthrottles, rfl⟩, rfl, hstatus⟩

/-- Something else is counted of the client. -/
theorem countForClient (s : CallSetting σ α) (f : ClientMetrics → ClientMetrics)
    (h : ∀ m, (f m).attempts = m.attempts ∧ (f m).retries = m.retries ∧
      (f m).redirects = m.redirects ∧ (f m).throttles = m.throttles ∧ (f m).ofCalls = m.ofCalls) :
    Uncounted (CallM.countForClient s f) := by
  refine ⟨fun run => (ends_countForClient s f).mpr ?_⟩
  split
  · obtain ⟨hattempts, hretries, hredirects, hthrottles, hofCalls⟩ := h run.client.metrics
    exact ⟨rfl, rfl, hattempts, hretries, hredirects, ⟨0, rfl, hthrottles⟩, hofCalls, id⟩
  · exact .refl run

end Uncounted

variable {s : CallSetting σ α} {authAllowed : Bool}

/-! ### The answer -/

theorem countThrottle_uncounted (hm : s.client.config.metricsEnabled = true) (e : ServiceError) :
    Uncounted (countThrottle s e) := by
  unfold countThrottle
  split
  · refine ⟨fun run => ?_⟩
    rw [ends_bind, ends_count, ends_countForClient, if_pos hm]
    exact ⟨rfl, rfl, rfl, rfl, rfl, ⟨1, rfl, rfl⟩, rfl, id⟩
  · exact .pure ()

theorem correctClock_uncounted (headers : Headers) (e : ServiceError) :
    Uncounted (correctClock s headers e) := by
  unfold correctClock
  refine .ite (.bind (.perform _) fun now => .bind (.record _) fun _ => .bind .get fun run =>
    .bind (.update (fun _ => rfl) fun _ => rfl) fun _ => ?_) (.pure ())
  exact .ite (.pure ()) (.bind (.revise _) fun _ =>
    .countForClient s _ fun _ => ⟨rfl, rfl, rfl, rfl, rfl⟩)

theorem onFailureResponse_uncounted (hm : s.client.config.metricsEnabled = true)
    (r : HttpResponse) :
    Uncounted (onFailureResponse s r : CallM σ (Outcome σ α authAllowed)) :=
  Uncounted.inherited.onFailureResponse (countThrottle_uncounted hm) correctClock_uncounted r

/-- After a response its status is known. -/
theorem onResponse_counts (hm : s.client.config.metricsEnabled = true) (r : HttpResponse)
    (run : Run σ) :
    Ends (onResponse s r : CallM σ (Outcome σ α authAllowed)) run
      (fun _ run' => Counted {} run run' ∧ run'.metrics.status.isSome) fun _ => Counted {} run := by
  unfold onResponse
  refine ((announce_footprint _).ends_of_no_failure (by simp) run).bind fun _ told hf => ?_
  rw [ends_bind, ends_record, ends_bind, ends_count]
  have hseen : Counted {} run
      { told with
        metrics := { told.metrics with status := some r.status.code }
        journal := told.journal ++ [.answered r.status] } :=
    (Counted.of_frame hf (by decide) (by decide)).then_zero
      ⟨rfl, rfl, rfl, rfl, rfl, ⟨0, rfl, rfl⟩, rfl, fun _ => rfl⟩
  refine Ends.mono (Uncounted.ends (.ite (Uncounted.inherited.onSuccess r) ?_) _)
    (fun _ _ h => ⟨hseen.then_zero h, h.status rfl⟩) fun _ _ h => hseen.then_zero h
  split
  · exact Uncounted.inherited.onRedirect _
  · exact onFailureResponse_uncounted hm r

/-- What is made of the answer counts nothing, and a success tells its status. -/
theorem interpret_counts (hm : s.client.config.metricsEnabled = true) (limit : Option Duration)
    (answer : Except TransportError HttpResponse) (run : Run σ) :
    Ends (interpret s limit answer : CallM σ (Outcome σ α authAllowed)) run
      (fun outcome run' => Counted {} run run' ∧
        ∀ response, outcome = .success response → run'.metrics.status.isSome)
      fun _ => Counted {} run := by
  cases answer with
  | ok r => exact (onResponse_counts hm r run).mono_ok fun _ _ h => ⟨h.1, fun _ _ => h.2⟩
  | error e =>
    have hnone : Ends (onNoResponse s e limit : CallM σ (Outcome σ α authAllowed)) run
        (fun outcome _ => ∀ response, outcome ≠ .success response) fun _ _ => True := by
      unfold onNoResponse
      refine .after fun up run' => ?_
      dsimp only
      split
      · trivial
      · rw [ends_bind, ends_request]
        simp
    exact (((Uncounted.inherited.onNoResponse e limit).ends run).and hnone).mono
      (fun _ _ h => ⟨h.1, fun response heq => absurd heq (h.2 response)⟩) fun _ _ h => h.1

/-! ### The turn -/

/-- An attempt that is started is counted. -/
theorem startAttempt_counts (hm : s.client.config.metricsEnabled = true)
    (directive : Directive σ) (number : Nat) (run : Run σ) {failed : Error → Run σ → Prop} :
    Ends (startAttempt s directive number) run (fun _ => Counted { attempts := 1 } run) failed := by
  unfold startAttempt
  rw [ends_bind, ends_record, ends_bind, ends_count, ends_countForClient, if_pos hm]
  exact ⟨rfl, rfl, rfl, rfl, rfl, ⟨0, rfl, rfl⟩, rfl, id⟩

theorem countFailedAttempt_counts (run : Run σ) :
    Counted { exceptions := 1 } run (countFailedAttempt run) :=
  ⟨rfl, rfl, rfl, rfl, rfl, ⟨0, rfl, rfl⟩, rfl, id⟩

theorem takeCapacity_uncounted : Uncounted (takeCapacity s) := by
  unfold takeCapacity
  refine .bind .get fun run => .bind (.update (fun _ => rfl) fun _ => rfl) fun _ => ?_
  refine .ite (.bind (.record _) fun _ => .bind (.update (fun _ => rfl) fun _ => rfl) fun _ =>
    .bind (.count _ fun _ => ⟨rfl, rfl, rfl, id⟩) fun _ => .pure _) (.bind (.record _) fun _ =>
      .bind (.countForClient s _ fun _ => ⟨rfl, rfl, rfl, rfl, rfl⟩) fun _ => .pure _)

theorem admits_uncounted (o : Origin) (failure : Error) (number : Nat) :
    Uncounted (admits s o failure number) := by
  have hask : ∀ failed, Uncounted (askCondition s failed) := fun failed =>
    .of_footprint (askCondition_footprint s failed) (by decide) (by decide)
  unfold admits
  refine .ite (.pure _) (.ite (.bind .request fun _ => hask _) ?_)
  refine .bind takeCapacity_uncounted fun taken => ?_
  exact .ite (.bind .request fun _ => hask _) (.pure _)

end CallM

end ServiceCall
