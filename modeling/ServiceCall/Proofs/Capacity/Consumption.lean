import ServiceCall.Proofs.Call.Inheritance
import ServiceCall.Proofs.Capacity.Traffic

/-!
Consumption. The metrics of a call sum up what it has taken from the pool, in a counter of 64 bits.
The counter is exact as long as the sum fits, and where sums are checked a call whose sum does not
fit never comes back. A limited pool sees to it that the sum fits for a call that has the pool to
itself. For one of several calls it does not, as what the others give back can be taken again, and a
pool without limit does not at all.
-/

namespace ServiceCall

variable {σ α β γ ι : Type}

/-! ### Meters -/

namespace CallMetrics

variable {m m' : CallMetrics} {total : Nat}

/-- The consumed capacity was summed up to this total, of which the counter has what 64 bits hold;
that it has not all of it is noted. -/
structure Sums (m : CallMetrics) (total : Nat) : Prop where
  consumed : m.capacityConsumed = total % (maxCount + 1)
  overflowed : m.overflowed = true ↔ maxCount < total

theorem Sums.addCapacity (h : m.Sums total) (cost : Nat) :
    (m.addCapacity cost).Sums (total + cost) where
  consumed := by rw [CallMetrics.addCapacity, h.consumed, Nat.mod_add_mod]
  overflowed := by
    have hnoted : (m.addCapacity cost).overflowed = true ↔
        maxCount < total ∨ maxCount < total % (maxCount + 1) + cost := by
      simp only [CallMetrics.addCapacity, Bool.or_eq_true, h.overflowed, h.consumed,
        decide_eq_true_eq]
    rw [hnoted]
    rcases Nat.lt_or_ge maxCount total with hleft | hfits
    · exact iff_of_true (.inl hleft) (by omega)
    · rw [Nat.mod_eq_of_lt (Nat.lt_succ_of_le hfits)]
      exact or_iff_right (Nat.not_lt_of_le hfits)

/-- A counter whose sum fits is exact. -/
theorem Sums.exact_iff (h : m.Sums total) : m.capacityConsumed = total ↔ total ≤ maxCount := by
  rw [h.consumed, Nat.mod_eq_iff_lt (Nat.succ_ne_zero maxCount), Nat.lt_succ_iff]

theorem Sums.overflowed_eq (h : m.Sums total) : m.overflowed = decide (maxCount < total) :=
  Bool.eq_iff_iff.mpr (h.overflowed.trans decide_eq_true_iff.symm)

end CallMetrics

/-- The cost was taken so many times, at least and at most, and the metrics of the call have
followed. -/
def Metered (cost least most : Nat) (run : Run σ) : Prop :=
  ∃ n, least ≤ n ∧ n ≤ most ∧ run.journal.taken = List.replicate n cost ∧
    run.metrics.Sums (n * cost)

namespace Metered

variable {cost least most most' : Nat} {run run' : Run σ} {effects : List Effect}

theorem start (cost : Nat) (state : ClientState) (request : HttpRequest σ) (world : σ) :
    Metered cost 0 0 (Client.run state request world) := by
  refine ⟨0, Nat.le_refl 0, Nat.le_refl 0, rfl, ?_⟩
  rw [Nat.zero_mul]
  exact ⟨rfl, by simp [Client.run]⟩

theorem mono (h : Metered cost least most run) (hle : most ≤ most') : Metered cost least most' run := by
  obtain ⟨n, hleast, hmost, hmeter⟩ := h
  exact ⟨n, hleast, hmost.trans hle, hmeter⟩

theorem congr (h : Metered cost least most run) (htaken : run'.journal.taken = run.journal.taken)
    (hsums : ∀ {total}, run.metrics.Sums total → run'.metrics.Sums total) :
    Metered cost least most run' := by
  obtain ⟨n, hleast, hmost, hmeter, hrun⟩ := h
  exact ⟨n, hleast, hmost, htaken.trans hmeter, hsums hrun⟩

theorem frame (h : Metered cost least most run) (hf : Frame effects run run')
    (hm : .metrics ∉ effects) (ht : .records .capacityTaken ∉ effects) :
    Metered cost least most run' :=
  h.congr (hf.taken_eq ht) fun hsums => (hf.spares .metrics hm).symm ▸ hsums

/-- Less than a limit is not more than the limit. -/
theorem of_min (h : Metered cost least (min most' most) run) : Metered cost least most run :=
  h.mono (Nat.min_le_right _ _)

/-- One more time the cost has been taken and counted. -/
theorem pay (h : Metered cost least most run)
    (hj : run'.journal = run.journal ++ [.capacityTaken cost])
    (hm : run'.metrics = run.metrics.addCapacity cost) : Metered cost least (most + 1) run' := by
  obtain ⟨n, hleast, hmost, htaken, hsums⟩ := h
  refine ⟨n + 1, Nat.le_succ_of_le hleast, Nat.succ_le_succ hmost, ?_, ?_⟩
  · rw [hj, Journal.taken_append, htaken, List.replicate_succ']
    rfl
  · rw [hm, Nat.succ_mul]
    exact hsums.addCapacity cost

end Metered

namespace CallM

/-! ### Actions without cost -/

/-- Whatever has been metered before the action is metered after it. -/
structure Costless (act : CallM σ β) : Prop where
  ends : ∀ {cost least most run}, Metered cost least most run →
    Ends act run (fun _ => Metered cost least most) fun _ => Metered cost least most

namespace Costless

variable {act : CallM σ β} {f : β → CallM σ γ} {effects : List Effect}

theorem of_footprint (h : Footprint effects act) (hm : .metrics ∉ effects)
    (ht : .records .capacityTaken ∉ effects) : Costless act :=
  ⟨fun hrun => (h.ends _).mono (fun _ _ hf => hrun.frame hf hm ht) fun _ _ hf =>
    hrun.frame hf.1 hm ht⟩

theorem bind (h : Costless act) (hf : ∀ value, Costless (f value)) : Costless (act >>= f) :=
  ⟨fun hrun => (h.ends hrun).bind fun value _ hrun' => (hf value).ends hrun'⟩

theorem inherited : Inherited fun β (act : CallM σ β) => Costless act where
  quiet := fun hact hn => .of_footprint hact (hn _ (by decide)) (hn _ (by decide))
  bind := bind

/-- Something else is counted of the call. -/
theorem count (f : CallMetrics → CallMetrics)
    (hf : ∀ {m : CallMetrics} {total}, m.Sums total → (f m).Sums total) :
    Costless (CallM.count f : CallM σ Unit) := ⟨fun h => h.congr rfl hf⟩

theorem countForClient (s : CallSetting σ α) (f : ClientMetrics → ClientMetrics) :
    Costless (CallM.countForClient s f) := by
  have hact : Footprint [.clientMetrics] (CallM.countForClient s f) := .countForClient s f (.head _)
  exact .of_footprint hact (by simp) (by simp)

/-- An attempt that fails is counted as an exception. -/
theorem onFailure (h : Costless act) : Costless (CallM.onFailure act countFailedAttempt) :=
  ⟨fun hrun => ends_onFailure.mpr ((h.ends hrun).mono_failed fun _ _ hrun' =>
    hrun'.congr rfl fun hsums => ⟨hsums.1, hsums.2⟩)⟩

end Costless

variable {s : CallSetting σ α} {authAllowed : Bool}

/-! ### The answer -/

theorem countThrottle_costless (e : ServiceError) : Costless (countThrottle s e) := by
  unfold countThrottle
  split
  · exact .bind (.count _ fun hsums => ⟨hsums.1, hsums.2⟩) fun _ => .countForClient s _
  · exact Costless.inherited.pure ()

theorem onResponse_costless (r : HttpResponse) :
    Costless (onResponse s r : CallM σ (Outcome σ α authAllowed)) := by
  unfold onResponse
  refine .bind (.of_footprint (announce_footprint _) (by decide) (by decide)) fun _ =>
    .bind (Costless.inherited.record (by simp [Event.kind])) fun _ =>
      .bind (.count _ fun hsums => ⟨hsums.1, hsums.2⟩) fun _ => ?_
  split
  · exact Costless.inherited.onSuccess r
  · split
    · exact Costless.inherited.onRedirect _
    · exact Costless.inherited.onFailureResponse countThrottle_costless (fun headers e =>
        .of_footprint (correctClock_footprint s headers e) (by decide) (by decide)) r

theorem interpret_costless (limit : Option Duration)
    (answer : Except TransportError HttpResponse) :
    Costless (interpret s limit answer : CallM σ (Outcome σ α authAllowed)) := by
  cases answer with
  | ok r => exact onResponse_costless r
  | error e => exact Costless.inherited.onNoResponse e limit

/-! ### The turn -/

theorem depart_costless (o : Origin) (tally : Tally) (directive : Directive σ) :
    Costless (depart s o tally directive) := by
  have hstart : Costless (startAttempt s directive (tally.attempts + 1)) :=
    .bind (Costless.inherited.record (by simp [Event.kind])) fun _ =>
      .bind (.count _ fun hsums => ⟨hsums.1, hsums.2⟩) fun _ => .countForClient s _
  exact .bind (.of_footprint (checkInterruption_footprint s) (by decide) (by decide)) fun _ =>
    .bind hstart fun _ =>
      .bind (.of_footprint (prepare_footprint o directive) (by decide) (by decide)) fun _ =>
        .onFailure (.of_footprint (sendOut_footprint s directive _) (by decide) (by decide))

variable {least most : Nat} {run : Run σ} {o : Origin} {tally : Tally}

/-- What the pool grants is counted. -/
theorem takeCapacity_meters (h : Metered s.retryCost least most run) :
    Ends (takeCapacity s) run (fun _ => Metered s.retryCost least (most + 1))
      fun _ => Metered s.retryCost least (most + 1) := by
  have hrefused : Costless (do
      record (.capacityRefused s.retryCost)
      countForClient s fun m => { m with refusedCapacity := m.refusedCapacity + 1 }
      return false) :=
    .bind (Costless.inherited.record (by simp [Event.kind])) fun _ =>
      .bind (.countForClient s _) fun _ => Costless.inherited.pure _
  unfold takeCapacity
  rw [ends_bind, ends_get]
  rcases run.client.pool.acquire s.retryCost with ⟨taken, pool⟩
  rw [ends_bind, ends_modify]
  cases taken with
  | true =>
    simp only [if_true, ends_bind, ends_record, ends_modify, ends_count, ends_pure]
    exact h.pay rfl rfl
  | false => exact hrefused.ends ((h.mono (Nat.le_succ most)).congr rfl id)

theorem admits_meters (h : Metered s.retryCost least most run) (failure : Error) (number : Nat) :
    Ends (admits s o failure number) run (fun _ => Metered s.retryCost least (most + 1))
      fun _ => Metered s.retryCost least (most + 1) := by
  have hask : Costless (do
      askCondition s {
        request := (← CallM.request).subject
        error := failure
        attempts := number
        retries := number - 1
        repeatable := o.repeatable } : CallM σ Bool) :=
    .bind Costless.inherited.request fun _ =>
      .of_footprint (askCondition_footprint s _) (by decide) (by decide)
  have hfree := h.mono (Nat.le_succ most)
  unfold admits
  split
  · exact hfree
  · dsimp only
    split
    · exact hask.ends hfree
    · refine (takeCapacity_meters h).bind fun taken _ h => ?_
      split
      · exact hask.ends h
      · exact h

end CallM

/-! ### The call -/

/-- How many retries a call may have paid for: none before its first attempt, at most one for each
attempt that it has gone on after, and never more than its limits allow. -/
def Phase.mostPaid (l : CallLimits) : Phase σ α → Nat
  | .outset | .begun => 0
  | .ready _ tally _ | .waiting _ tally .. => min tally.attempts l.retries
  | .failing _ | .ended _ => l.retries

theorem Phase.mostPaid_le (l : CallLimits) (phase : Phase σ α) : phase.mostPaid l ≤ l.retries := by
  cases phase with
  | outset => exact Nat.zero_le _
  | begun => exact Nat.zero_le _
  | ready o tally directive => exact Nat.min_le_right _ _
  | waiting o tally limit answer => exact Nat.min_le_right _ _
  | failing e => exact Nat.le_refl _
  | ended result => exact Nat.le_refl _

namespace CallM

variable {s : CallSetting σ α} {least : Nat} {run : Run σ} {o : Origin} {tally : Tally}

/-- A call that goes on has made one attempt more, and a failure is paid for only below the
limit. -/
theorem conclude_meters (h : Metered s.retryCost least (min tally.attempts s.limits.retries) run)
    (outcome : Outcome σ α (decide (tally.authRetries < s.limits.authRetries))) :
    Ends (conclude s o tally outcome) run
      (fun t => Metered s.retryCost least ((nextPhase o t).mostPaid s.limits))
      fun _ => Metered s.retryCost least s.limits.retries := by
  have hnext : min tally.attempts s.limits.retries ≤
      min (tally.attempts + 1) s.limits.retries := by omega
  have hcount : ∀ (f : ClientMetrics → ClientMetrics) (run : Run σ),
      Metered s.retryCost least (min (tally.attempts + 1) s.limits.retries) run →
      Ends (countForClient s f) run
        (fun _ => Metered s.retryCost least (min (tally.attempts + 1) s.limits.retries))
        fun _ => Metered s.retryCost least s.limits.retries :=
    fun f _ h => ((Costless.countForClient s f).ends h).mono_failed fun _ _ h => h.of_min
  unfold conclude
  cases outcome with
  | success response => exact h.of_min
  | redirect target =>
    dsimp only
    split
    · exact (hcount _ _ (h.mono hnext)).bind fun _ _ h => h
    · exact h.of_min
  | authRetry parameters allowed => exact h.mono hnext
  | retryable failure =>
    have hexception : Costless (countException : CallM σ Unit) := .count _ fun hsums => ⟨hsums.1, hsums.2⟩
    refine ((hexception.ends h).mono_failed fun _ _ h => h.of_min).bind fun _ _ h => ?_
    split
    · next hlaw =>
      -- Fewer attempts than the limit have been made, so one payment more keeps to it.
      have hpaid : min tally.attempts s.limits.retries + 1 ≤
          min (tally.attempts + 1) s.limits.retries := by omega
      refine ((admits_meters h failure (tally.attempts + 1)).mono_failed fun _ _ h =>
        (h.mono hpaid).of_min).bind fun admitted _ h => ?_
      split
      · exact (hcount _ _ (h.mono hpaid)).bind fun _ _ h => h
      · exact (h.mono hpaid).of_min
    · exact h.of_min

theorem metered_phaseInvariant (s : CallSetting σ α) (least : Nat) :
    PhaseInvariant s fun phase => Metered s.retryCost least (phase.mostPaid s.limits) where
  launch := fun run h => ((Costless.of_footprint (launch_footprint s) (by decide)
    (by decide)).ends h).mono (fun _ _ h => h) fun _ _ h => h.mono (Nat.zero_le _)
  markOrigin := fun run h => ((Costless.of_footprint markOrigin_footprint (by decide)
    (by decide)).ends h).mono (fun _ _ h => h.mono (Nat.zero_le _)) fun _ _ h =>
      h.mono (Nat.zero_le _)
  depart := fun o tally directive run h => ((depart_costless o tally directive).ends h).mono_failed
    fun _ _ h => h.of_min
  arrive := fun o tally limit answer run h =>
    (((interpret_costless limit answer).onFailure.ends h).mono_failed fun _ _ h => h.of_min).bind
      fun outcome _ h => conclude_meters h outcome
  giveUp := fun e run h => h.frame (giveUp_frame s run) (by decide) (by decide)

end CallM

/-! ### What the counter says -/

/-- The cost was taken so many times at most. The counter is the sum if that fits into 64 bits and
only then; otherwise it has what they hold of the sum, and is noted to have left them. The sum fits
if the largest possible one does. -/
structure Consumption (cost most : Nat) (taken : List Nat) (m : CallMetrics) : Prop where
  taken_eq : taken = List.replicate taken.length cost
  bounded : taken.length ≤ most
  consumed_eq : m.capacityConsumed = taken.length * cost % (maxCount + 1)
  overflowed_iff : m.overflowed = true ↔ maxCount < taken.length * cost
  exact_iff : m.capacityConsumed = taken.length * cost ↔ m.overflowed = false
  fits_of_most : most * cost ≤ maxCount → taken.length * cost ≤ maxCount

theorem Metered.consumption {cost least most : Nat} {run : Run σ} (h : Metered cost least most run) :
    Consumption cost most run.journal.taken run.metrics := by
  obtain ⟨n, -, hn, htaken, hsums⟩ := h
  have hlength : run.journal.taken.length = n := by rw [htaken, List.length_replicate]
  rw [← hlength] at hn htaken hsums
  refine ⟨htaken, hn, hsums.consumed, hsums.overflowed, ?_, fun hmost => ?_⟩
  · rw [hsums.exact_iff, hsums.overflowed_eq, decide_eq_false_iff_not, Nat.not_lt]
  · exact (Nat.mul_le_mul_right cost hn).trans hmost

namespace Traffic

variable [DecidableEq ι] {c : Client σ} {orders : ι → CallOrder σ} {t : Traffic orders}

/-- The steps of other calls do not touch the meter of a call, whatever they do to the pool. -/
theorem metered {state : ClientState} {world : σ}
    (hreach : Relation.ReflTransGen (Next c) (start orders state world) t) (i : ι) :
    Metered c.config.capacityPolicy.cost 0
      ((t.calls i).1.mostPaid ((orders i).setting c).limits) (t.calls i).2 := by
  -- On the steps of all calls; a step is one of the call itself, or leaves the call where it is.
  induction hreach with
  | refl => exact .start _ state (orders i).request world
  | @tail before _ _ hnext ih =>
    obtain ⟨j, client, world, -, rfl⟩ := hnext
    by_cases hij : i = j
    · subst hij
      rw [advance, place_self]
      exact (CallM.metered_phaseInvariant ((orders i).setting c) 0).step (ih.congr rfl id)
    · rw [advance, place_of_ne before hij]
      exact ih

end Traffic

namespace Client

variable {c : Client σ} {handlers : Handlers σ α} {context : CallContext σ} {state : ClientState}
  {request : HttpRequest σ} {world : σ}

/-- A call that has the client to itself is the only one of its traffic. -/
theorem call_consumption (hs : state.isShutDown = false) :
    let report := (c.call handlers context state request world).1
    Consumption c.config.capacityPolicy.cost c.config.maxRetries report.journal.taken
      report.context.metrics := by
  intro report
  let orders : Unit → CallOrder σ := fun _ =>
    ⟨α, handlers, context, request, (c.surroundings.now world).1⟩
  obtain ⟨n, -, -, -, htaken, hmetrics⟩ :=
    @Traffic.exists_schedule_ended σ Unit orders _ c state world () hs rfl
  have hreach := Traffic.schedule_reaches c (.start orders state (c.surroundings.now world).2)
    (List.replicate n ())
  rw [← htaken, ← hmetrics]
  exact ((Traffic.metered hreach ()).mono (Phase.mostPaid_le _ _)).consumption

/-- A pool that a call has to itself grants it no more than it holds. -/
theorem taken_le_of_holds {maximum available : Nat} (hpool : state.pool.Holds maximum available)
    (hs : state.isShutDown = false) :
    let report := (c.call handlers context state request world).1
    report.journal.taken.length * c.config.capacityPolicy.cost ≤ available := by
  obtain ⟨within, hlimited⟩ := hpool
  have hstart := Ledger.start hlimited request (c.surroundings.now world).2
    c.config.capacityPolicy.cost
  have hcall := CallM.call_settles (s := c.settingAt handlers context request world) hstart
  obtain ⟨result, last, ⟨n, h⟩, hreport⟩ := Client.call_reports hs hcall
  dsimp only
  rw [hreport.journal, h.taken, List.length_replicate]
  exact h.covered

/-- Where sums are checked, a call comes back as it does elsewhere if its sum has stayed in its
bits, and otherwise not at all. -/
theorem checkedCall_eq (hs : state.isShutDown = false) :
    let called := c.call handlers context state request world
    c.checkedCall handlers context state request world =
      if called.1.context.metrics.overflowed = true then .error .capacityConsumed
      else .ok called := by
  unfold checkedCall
  rw [hs]
  rfl

/-- A call whose sum has left its bits at some step has it so in the end. -/
theorem StandsAfter.overflowed {n : Nat} {phase : Phase σ α} {run : Run σ}
    (h : c.StandsAfter handlers context state request world n phase run)
    (hleaves : run.metrics.overflowed = true) :
    (c.call handlers context state request world).1.context.metrics.overflowed = true := by
  obtain ⟨k, -, hmost, htaken, hsums⟩ :=
    h.invariant (CallM.metered_phaseInvariant _ 0) (.start _ state request _)
  -- From here on at least as much has been taken as now.
  obtain ⟨result, conducted, -, ⟨⟨m, hended⟩, k', hk, -, -, hsums'⟩, -, -⟩ := h.exists_ended
    (P := fun phase run => (∃ m, c.StandsAfter handlers context state request world m phase run) ∧
      Metered c.config.capacityPolicy.cost k (phase.mostPaid _) run)
    (fun _ _ _ hstands hmetered => ⟨⟨_, hstands.next⟩,
      (CallM.metered_phaseInvariant _ k).step hmetered.2⟩)
    ⟨⟨n, h⟩, k, Nat.le_refl k, hmost, htaken, hsums⟩
  have hmetrics : (c.call handlers context state request world).1.context.metrics =
      conducted.metrics := congrArg (·.1.context.metrics) hended.call_eq
  rw [hmetrics, hsums'.overflowed]
  exact (hsums.overflowed.mp hleaves).trans_le (Nat.mul_le_mul_right _ hk)

/-- Where sums are checked, a call does not come back if and only if a sum leaves its bits at some
step of it. -/
theorem checkedCall_eq_error_iff {e : Overflow} :
    c.checkedCall handlers context state request world = .error e ↔
      ∃ n phase run, c.StandsAfter handlers context state request world n (phase : Phase σ α) run ∧
        run.metrics.overflowed = true := by
  cases hs : state.isShutDown with
  | true =>
    refine iff_of_false (fun h => ?_) fun ⟨n, phase, run, hstands, _⟩ =>
      Bool.false_ne_true (hstands.1.symm.trans hs)
    rw [checkedCall, hs] at h
    cases h
  | false =>
    rw [checkedCall_eq hs]
    constructor
    · intro h
      obtain ⟨n, -, result, conducted, -, hended, -, -⟩ :=
        @exists_standsAfter_ended σ α c handlers context state request world hs
      have hmetrics : (c.call handlers context state request world).1.context.metrics =
          conducted.metrics := congrArg (·.1.context.metrics) hended.call_eq
      split at h
      · next hleaves => exact ⟨n, _, conducted, hended, hmetrics ▸ hleaves⟩
      · cases h
    · rintro ⟨n, phase, run, hstands, hleaves⟩
      rw [if_pos (hstands.overflowed hleaves)]

end Client

/-- Whatever other calls do meanwhile, at any time the counter of a call is the sum of what the call
has taken from the pool, unless that sum has left its 64 bits. It does not if the cost of all retries
that the limits allow fits into them. A call that has the client to itself comes back with the exact
sum if that fits, and it fits if the pool is a limited one; where sums are checked, the call does
not come back if the sum does not fit. -/
theorem consumption_of_calls [DecidableEq ι] (c : Client σ) (orders : ι → CallOrder σ)
    (state : ClientState) (world : σ) :
    let cost := c.config.capacityPolicy.cost
    let most := c.config.maxRetries
    (∀ t : Traffic orders, Relation.ReflTransGen (Traffic.Next c) (.start orders state world) t →
      ∀ i, Consumption cost most (t.taken i) (t.metrics i)) ∧
    (state.isShutDown = false → ∀ i,
      let order := orders i
      let called := c.call order.handlers order.context state order.request world
      let checked := c.checkedCall order.handlers order.context state order.request world
      let sum := called.1.journal.taken.length * cost
      Consumption cost most called.1.journal.taken called.1.context.metrics ∧
        (sum ≤ maxCount → checked = .ok called ∧
          called.1.context.metrics.capacityConsumed = sum) ∧
        (maxCount < sum → checked = .error .capacityConsumed) ∧
        (checked = .error .capacityConsumed ↔ ∃ n phase run,
          c.StandsAfter order.handlers order.context state order.request world n phase run ∧
            run.metrics.overflowed = true) ∧
        ∀ maximum available, state.pool.Holds maximum available → available ≤ maxCount →
          sum ≤ maxCount) := by
  intro cost most
  refine ⟨fun t hreach i => ?_, fun hs i => ?_⟩
  · exact ((Traffic.metered hreach i).mono (Phase.mostPaid_le _ _)).consumption
  · intro order called checked sum
    have hconsumption : Consumption cost most called.1.journal.taken called.1.context.metrics :=
      Client.call_consumption hs
    have hchecked : checked = _ := Client.checkedCall_eq hs
    refine ⟨hconsumption, fun hfits => ?_, fun hleaves => ?_, Client.checkedCall_eq_error_iff,
      fun maximum available hpool hmost => ?_⟩
    · have hkept : called.1.context.metrics.overflowed = false := by
        rw [← Bool.not_eq_true, hconsumption.overflowed_iff]
        exact Nat.not_lt_of_le hfits
      exact ⟨hchecked.trans (if_neg (Bool.not_eq_true _ ▸ hkept)), hconsumption.exact_iff.mpr hkept⟩
    · exact hchecked.trans (if_pos (hconsumption.overflowed_iff.mpr hleaves))
    · exact (Client.taken_le_of_holds hpool hs).trans hmost

namespace Rehearsal

/-- Two retries cost more than 64 bits hold. -/
def costly (throttled : Bool) : Client Stage :=
  { client with
    config := { config with throttledRetries := throttled, capacityPolicy := ⟨2 ^ 63, 2⟩ } }

/-- Of two calls that are answered alike, one cannot read its answers. -/
def readers (reads : Bool) : CallOrder Stage where
  α := Unit
  handlers :=
    { response := { handle := fun r =>
        return (if reads then .ok { result := () } else .error (.io ⟨.other, "unread"⟩), r) }
      error := fun r => return (.ok .tooLarge, r) }
  context := client.context ⟨0⟩
  request := request
  startedAt := 0

end Rehearsal

open Rehearsal in
/-- The pool is too small for two retries of a call, unless another call gives back in time what is
missing for the second one. -/
theorem consumption_of_calls_that_share :
    let c := costly true
    let state := c.start 0
    let world : Stage := { steps := List.replicate 4 (.answering .ok {}) }
    let order := List.replicate 4 false ++ List.replicate 4 true ++ List.replicate 2 false
    let t := (Traffic.start readers state world).schedule c order
    let single := readers false
    let alone := c.call single.handlers single.context state single.request world
    state.isShutDown = false ∧ state.pool.Holds maxCount maxCount ∧
      Relation.ReflTransGen (Traffic.Next c) (.start readers state world) t ∧
      t.taken false = [2 ^ 63, 2 ^ 63] ∧ (t.metrics false).overflowed = true ∧
      alone.1.journal.taken = [2 ^ 63] ∧ alone.1.context.metrics.capacityConsumed = 2 ^ 63 ∧
      c.checkedCall single.handlers single.context state single.request world = .ok alone := by
  intro c state world order t single alone
  have hreach := Traffic.schedule_reaches c (.start readers state world) order
  have hpool : state.pool.Holds maxCount maxCount := ⟨Nat.le_refl maxCount, by decide +kernel⟩
  have htaken : t.taken false = [2 ^ 63, 2 ^ 63] := by
    simp only [t, Traffic.taken]
    decide +kernel
  have halone : alone.1.journal.taken = [2 ^ 63] := by
    simp only [alone, single, Client.call, CallM.call, CallM.conduct, CallM.attempts_eq_turnsIn]
    decide +kernel
  obtain ⟨hshared, hown⟩ := consumption_of_calls c readers state world
  have hoverflowed := (hshared t hreach false).overflowed_iff
  obtain ⟨-, hreturns, -, -, hlimited⟩ := hown rfl false
  obtain ⟨hchecked, hexact⟩ := hreturns (hlimited maxCount maxCount hpool (Nat.le_refl maxCount))
  rw [htaken] at hoverflowed
  rw [halone] at hexact
  have hleaves : maxCount < [2 ^ 63, 2 ^ 63].length * c.config.capacityPolicy.cost := by
    decide +kernel
  have hcost : [2 ^ 63].length * c.config.capacityPolicy.cost = 2 ^ 63 := by decide +kernel
  exact ⟨rfl, hpool, hreach, htaken, hoverflowed.mpr hleaves, halone, hexact.trans hcost, hchecked⟩

open Rehearsal in
/-- A pool without limit grants two retries. Their sum leaves its 64 bits: where it is checked the
call does not come back, and otherwise it says that they cost nothing. -/
theorem consumption_lost_by_overflow :
    let c := costly false
    let world : Stage := { steps := [.timeout, .timeout, .answering .ok {}] }
    let report := (c.call (handlers .tooLarge) (c.context ⟨0⟩) (c.start 0) request world).1
    (c.start 0).pool = .unlimited ∧
      (c.checkedCall (handlers .tooLarge) (c.context ⟨0⟩) (c.start 0) request world).isOk = false ∧
      report.result.isOk = true ∧ report.journal.taken = [2 ^ 63, 2 ^ 63] ∧
      report.context.metrics.capacityConsumed = 0 ∧
      report.context.metrics.capacityConsumed ≠
        report.journal.taken.length * c.config.capacityPolicy.cost := by
  simp only [Client.checkedCall, Client.call, CallM.call, CallM.conduct,
    CallM.attempts_eq_turnsIn]
  decide +kernel

end ServiceCall
