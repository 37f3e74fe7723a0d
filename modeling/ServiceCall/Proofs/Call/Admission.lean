import ServiceCall.Proofs.Call.Course

/-!
Admission of retries. Whether a failure is retried is settled in one of a few ways, each with its
own events; nothing else about the question matters to the rest of a call.
-/

namespace ServiceCall.CallM

variable {σ α : Type}

/-- The pool is asked once, and the flag of the call and the journal tell the answer. -/
theorem takeCapacity_ends (s : CallSetting σ α) (run : Run σ) :
    Ends (takeCapacity s) run
      (fun taken run' => taken = (run.client.pool.acquire s.retryCost).1 ∧
        run'.client.pool = (run.client.pool.acquire s.retryCost).2 ∧
        run'.journal = run.journal ++
          [if taken then .capacityTaken s.retryCost else .capacityRefused s.retryCost] ∧
        run'.tookCapacity = (taken || run.tookCapacity))
      fun _ _ => False := by
  unfold takeCapacity
  simp only [ends_bind, ends_get, ends_modify]
  rcases run.client.pool.acquire s.retryCost with ⟨taken, pool⟩
  cases taken with
  | true => simp
  | false => simp

/-- What the condition is told of a failure. -/
structure Tells (o : Origin) (failure : Error) (number : Nat) (failed : FailedAttempt σ) :
    Prop where
  error : failed.error = failure
  attempts : failed.attempts = number
  retries : failed.retries = number - 1
  repeatable : failed.repeatable = o.repeatable

/-- How it is settled whether a failure is retried. -/
inductive Admission (s : CallSetting σ α) (o : Origin) (failure : Error) (number : Nat)
    (run run' : Run σ) : Bool → Prop where
  | unrepeatable (spent : o.repeatable = false) (same : run' = run) :
    Admission s o failure number run run' false
  | refused (kept : o.repeatable = true) (unpaid : (run.client.pool.acquire s.retryCost).1 = false)
    (pool : run'.client.pool = (run.client.pool.acquire s.retryCost).2)
    (tookCapacity : run'.tookCapacity = run.tookCapacity)
    (journal : run'.journal = run.journal ++ [.capacityRefused s.retryCost]) :
    Admission s o failure number run run' false
  | free {admitted : Bool} (kept : o.repeatable = true) (failed : FailedAttempt σ)
    (tells : Tells o failure number failed) (throttling : failure.isThrottling = true)
    (pool : run'.client.pool = run.client.pool)
    (tookCapacity : run'.tookCapacity = run.tookCapacity)
    (journal : run'.journal = run.journal ++ [.conditionAsked failed admitted]) :
    Admission s o failure number run run' admitted
  | paid {admitted : Bool} (kept : o.repeatable = true) (failed : FailedAttempt σ)
    (tells : Tells o failure number failed) (throttling : failure.isThrottling = false)
    (taken : (run.client.pool.acquire s.retryCost).1 = true)
    (pool : run'.client.pool = (run.client.pool.acquire s.retryCost).2)
    (tookCapacity : run'.tookCapacity = true)
    (journal : run'.journal =
      run.journal ++ [.capacityTaken s.retryCost, .conditionAsked failed admitted]) :
    Admission s o failure number run run' admitted

theorem askCondition_ends (s : CallSetting σ α) (failed : FailedAttempt σ) (run : Run σ) :
    Ends (askCondition s failed) run
      (fun admitted run' => run'.journal = run.journal ++ [.conditionAsked failed admitted] ∧
        run'.client.pool = run.client.pool ∧ run'.tookCapacity = run.tookCapacity)
      fun _ _ => False := by
  unfold askCondition
  simp only [ends_bind, ends_perform, ends_record, ends_pure]
  exact ⟨trivial, trivial, trivial⟩

theorem admits_ends (s : CallSetting σ α) (o : Origin) (failure : Error) (number : Nat)
    (run : Run σ) :
    Ends (admits s o failure number) run
      (fun admitted run' => Admission s o failure number run run' admitted)
      fun _ _ => False := by
  unfold admits
  split
  · next hrep => exact .unrepeatable (by simpa using hrep) rfl
  · next hkept =>
    have hkept : o.repeatable = true := by simpa using hkept
    dsimp only
    split
    · next hthrottling =>
      rw [ends_bind, ends_request]
      refine (askCondition_ends s _ run).mono ?_ fun _ _ h => h
      rintro admitted run' ⟨hj, hpool, htook⟩
      exact .free hkept _ ⟨rfl, rfl, rfl, rfl⟩ hthrottling hpool htook hj
    · next hthrottling =>
      have hthrottling : failure.isThrottling = false := by simpa using hthrottling
      refine ends_bind.mpr ((takeCapacity_ends s run).mono ?_ fun _ _ h => h)
      rintro taken paid ⟨htaken, hpool, hj, htook⟩
      cases taken with
      | false => exact .refused hkept htaken.symm hpool htook hj
      | true =>
        refine ends_bind.mpr ?_
        rw [ends_request]
        refine (askCondition_ends s _ paid).mono ?_ fun _ _ h => h
        rintro admitted run' ⟨hj', hpool', htook'⟩
        rw [hj, List.append_assoc] at hj'
        exact .paid hkept _ ⟨rfl, rfl, rfl, rfl⟩ hthrottling htaken.symm (hpool'.trans hpool)
          (htook'.trans htook) hj'

/-- A failure that may be retried ends the call once the limit is reached. Until then it is settled
whether it is retried. -/
theorem conclude_ends_of_retryable {s : CallSetting σ α} {o : Origin} {tally : Tally}
    {failure : Error} {run : Run σ} {ok : Turn σ α s.limits tally → Run σ → Prop}
    {failed : Error → Run σ → Prop}
    (hlimit : s.limits.retries ≤ tally.attempts →
      ∀ run', Frame [.metrics] run run' → failed failure run')
    (hask : tally.attempts < s.limits.retries → ∀ asking run' admitted,
      Frame [.metrics] run asking →
      Admission s o failure (tally.attempts + 1) asking run' admitted →
      if admitted then ∀ less last, Frame [.clientMetrics] run' last →
        ok (.again tally.retried (.retry failure) less) last
      else failed failure run') :
    Ends (conclude s o tally (.retryable failure)) run ok failed := by
  unfold conclude
  refine (countException_footprint.ends_of_no_failure (by simp) run).bind fun _ asking hf => ?_
  split
  · next hlaw =>
    refine ends_bind.mpr ((admits_ends s o failure (tally.attempts + 1) asking).mono ?_
      fun _ _ h => h.elim)
    intro admitted run' hadmission
    have hnext := hask hlaw asking run' admitted hf hadmission
    cases admitted with
    | true =>
      have hcount : Footprint [.clientMetrics]
          (countForClient s fun m => { m with retries := m.retries + 1 }) :=
        .countForClient s _ (by decide)
      exact (hcount.ends_of_no_failure (by simp) run').bind fun _ last hf => hnext _ last hf
    | false => exact hnext
  · next hlaw => exact hlimit (Nat.le_of_not_lt hlaw) asking hf

end ServiceCall.CallM
