import ServiceCall.Proofs.Call.Phases
import ServiceCall.Proofs.Capacity.Accounting

/-!
Shares of a pool. A call knows nothing of what others take from the pool and give back between
two of its steps. From whatever pool it finds, each step pays for one retry at most, and the last
one gives back what is due.
-/

namespace ServiceCall

variable {σ α : Type}

/-! ### Accounts -/

/-- The call has paid for `n` retries and given nothing back. -/
structure Owes (cost n : Nat) (run : Run σ) : Prop where
  taken : run.journal.taken = List.replicate n cost
  returned : run.journal.returned = []
  took : run.tookCapacity = decide (0 < n)

/-- The call has paid for `n` retries and given back what was due. -/
structure Quits (cost n : Nat) (succeeded : Bool) (run : Run σ) : Prop where
  taken : run.journal.taken = List.replicate n cost
  returned : run.journal.returned = due cost succeeded n

namespace Phase

def isOver : Phase σ α → Bool
  | .ended _ => true
  | _ => false

/-- The account of a call that has paid for `n` retries. A call that has done nothing has paid
for none. -/
def Accounts (cost n : Nat) : Phase σ α → Run σ → Prop
  | .outset, run => n = 0 ∧ Owes cost n run
  | .ended result, run => Quits cost n result.isOk run
  | .begun, run => Owes cost n run
  | .ready .., run => Owes cost n run
  | .waiting .., run => Owes cost n run
  | .failing _, run => Owes cost n run

/-- What a call has given back that has paid for `n` retries: nothing before it is over. -/
def given (cost n : Nat) : Phase σ α → List Nat
  | .ended result => due cost result.isOk n
  | _ => []

/-- What a call withholds from the pool at most: as long as it runs the cost of all retries that
it has paid for, and one less afterwards. -/
def outstanding (cost : Nat) (phase : Phase σ α) (j : Journal σ) : Nat :=
  (if phase.isOver then j.taken.length - 1 else j.taken.length) * cost

variable {cost n : Nat} {phase : Phase σ α} {run run' : Run σ}

theorem Accounts.owes (h : phase.Accounts cost n run) (going : phase.isOver = false) :
    Owes cost n run := by
  cases phase with
  | outset => exact h.2
  | ended result => cases going
  | _ => exact h

theorem Accounts.taken (h : phase.Accounts cost n run) :
    run.journal.taken = List.replicate n cost := by
  cases phase with
  | ended result => exact Quits.taken h
  | outset => exact h.2.taken
  | _ => exact Owes.taken h

theorem Accounts.returned (h : phase.Accounts cost n run) :
    run.journal.returned = phase.given cost n := by
  cases phase with
  | ended result => exact Quits.returned h
  | outset => exact h.2.returned
  | _ => exact Owes.returned h

theorem Accounts.sum_taken (h : phase.Accounts cost n run) :
    run.journal.taken.sum = n * cost := by
  rw [h.taken, List.sum_replicate_nat]

theorem Accounts.outstanding_of_going (h : phase.Accounts cost n run)
    (going : phase.isOver = false) : phase.outstanding cost run.journal = n * cost := by
  rw [Phase.outstanding, going, if_neg Bool.false_ne_true, h.taken, List.length_replicate]

/-- An account is a matter of the call alone. -/
theorem Accounts.congr (h : phase.Accounts cost n run) (hj : run'.journal = run.journal)
    (htook : run'.tookCapacity = run.tookCapacity) : phase.Accounts cost n run' := by
  have howes : Owes cost n run → Owes cost n run' := fun h =>
    ⟨by rw [hj, h.taken], by rw [hj, h.returned], by rw [htook, h.took]⟩
  cases phase with
  | outset => exact ⟨h.1, howes h.2⟩
  | ended result => exact ⟨by rw [hj, Quits.taken h], by rw [hj, Quits.returned h]⟩
  | _ => exact howes h

end Phase

theorem Quits.outstanding {cost n : Nat} {result : Except Error (Response α)} {run : Run σ}
    (h : Quits cost n result.isOk run) :
    (Phase.ended result).outstanding cost run.journal = (n - 1) * cost := by
  rw [Phase.outstanding, Phase.isOver, if_pos rfl, h.taken, List.length_replicate]

/-! ### Moves -/

/-- Gives several amounts back, one after the other. -/
def RetryPool.releaseAll (counts : List Nat) (pool : RetryPool) : RetryPool :=
  counts.foldl (fun pool count => pool.release count) pool

/-- What a step may do to the pool that it finds, and to the account of its call. -/
inductive Moves (cost n : Nat) (pool : RetryPool) (phase phase' : Phase σ α) (run' : Run σ) :
    Prop where
  | rests (same : phase' = phase) (account : phase.Accounts cost n run')
    (kept : run'.client.pool = pool) : Moves cost n pool phase phase' run'
  | idle (going : phase.isOver = false) (still : phase'.isOver = false)
    (same : phase'.Accounts cost n run') (kept : run'.client.pool = pool) :
    Moves cost n pool phase phase' run'
  | pays (going : phase.isOver = false) (still : phase'.isOver = false)
    (granted : (pool.acquire cost).1 = true) (more : phase'.Accounts cost (n + 1) run')
    (left : run'.client.pool = (pool.acquire cost).2) : Moves cost n pool phase phase' run'
  | quits (going : phase.isOver = false) (result : Except Error (Response α))
    (ends : phase' = .ended result) (settled : Quits cost n result.isOk run')
    (left : run'.client.pool = pool.releaseAll (due cost result.isOk n)) :
    Moves cost n pool phase phase' run'

section

variable {cost n : Nat} {pool : RetryPool} {run run' : Run σ} {effects : List Effect}

/-- Nothing has been paid for since the pool was found. -/
def Idle (cost n : Nat) (pool : RetryPool) (run : Run σ) : Prop :=
  Owes cost n run ∧ run.client.pool = pool

/-- One retry has been paid for since the pool was found, or none. -/
def Moved (cost n : Nat) (pool : RetryPool) (run : Run σ) : Prop :=
  Idle cost n pool run ∨
    (pool.acquire cost).1 = true ∧ Idle cost (n + 1) (pool.acquire cost).2 run

/-- The call has given back what was due to the pool that it found. -/
def Quitted (cost n : Nat) (pool : RetryPool) (succeeded : Bool) (run : Run σ) : Prop :=
  Quits cost n succeeded run ∧ run.client.pool = pool.releaseAll (due cost succeeded n)

theorem idle_dependsOn : DependsOn capacityEffects (Idle (σ := σ) cost n pool) := by
  rintro effects run run' hn hf ⟨h, hpool⟩
  refine ⟨⟨(hf.taken_eq (hn _ (by decide))).trans h.taken,
    (hf.returned_eq (hn _ (by decide))).trans h.returned, ?_⟩, ?_⟩
  · rw [hf.tookCapacity (hn _ (by decide)), h.took]
  · rw [hf.pool (hn _ (by decide)), hpool]

theorem moved_dependsOn : DependsOn capacityEffects (Moved (σ := σ) cost n pool) := by
  rintro effects run run' hn hf (h | ⟨hgranted, h⟩)
  · exact .inl (idle_dependsOn effects run run' hn hf h)
  · exact .inr ⟨hgranted, idle_dependsOn effects run run' hn hf h⟩

theorem quitted_dependsOn (succeeded : Bool) :
    DependsOn capacityEffects (Quitted (σ := σ) cost n pool succeeded) := by
  rintro effects run run' hn hf ⟨h, hpool⟩
  refine ⟨⟨(hf.taken_eq (hn _ (by decide))).trans h.taken,
    (hf.returned_eq (hn _ (by decide))).trans h.returned⟩, ?_⟩
  rw [hf.pool (hn _ (by decide)), hpool]

theorem RetryPool.Holds.releaseAll {maximum available : Nat} (h : pool.Holds maximum available)
    (counts : List Nat) :
    (pool.releaseAll counts).Holds maximum (min (available + counts.sum) maximum) := by
  induction counts generalizing pool available with
  | nil =>
    obtain ⟨within, hlimited⟩ := h
    rw [List.sum_nil, Nat.add_zero, Nat.min_eq_left within]
    exact ⟨within, hlimited⟩
  | cons count counts ih =>
    have hsum : min (available + (count :: counts).sum) maximum =
        min (min (available + count) maximum + counts.sum) maximum := by
      rw [List.sum_cons]
      omega
    rw [hsum]
    exact ih (h.release count)

/-- New events are entries for some more retries, or for none. -/
theorem Owes.append (h : Owes cost n run) {new : Journal σ} {k : Nat}
    (hj : run'.journal = run.journal ++ new) (htaken : new.taken = List.replicate k cost)
    (hreturned : new.returned = []) (htook : run'.tookCapacity = decide (0 < n + k)) :
    Owes cost (n + k) run' where
  taken := by rw [hj, Journal.taken_append, h.taken, htaken, List.replicate_append_replicate]
  returned := by rw [hj, Journal.returned_append, h.returned, hreturned, List.append_nil]
  took := htook

theorem Idle.quits (h : Idle cost n pool run) {succeeded : Bool} {count : Nat}
    (hdue : due cost succeeded n = [count])
    (hj : run'.journal = run.journal ++ [.capacityReturned count])
    (hpool : run'.client.pool = run.client.pool.release count) :
    Quitted cost n pool succeeded run' := by
  obtain ⟨howes, rfl⟩ := h
  rw [Quitted, hdue]
  refine ⟨⟨?_, ?_⟩, hpool⟩
  · rw [hj, Journal.taken_append, howes.taken]
    exact List.append_nil _
  · rw [hj, Journal.returned_append, howes.returned, hdue]
    rfl

end

namespace CallM

variable {s : CallSetting σ α} {n : Nat} {pool : RetryPool} {run : Run σ} {o : Origin}
  {tally : Tally} {authAllowed : Bool}

/-! ### Giving back -/

theorem returnCapacity_quits (h : Idle s.retryCost n pool run) :
    Ends (returnCapacity s) run (fun _ => Quitted s.retryCost n pool true) fun _ _ => False := by
  unfold returnCapacity
  simp only [ends_bind, ends_get, ends_record, ends_modify]
  exact h.quits (due_of_success h.1.took) rfl rfl

theorem complete_quits (h : Idle s.retryCost n pool run) (status : Status) (handled : Handled α)
    (r : HttpResponse) :
    Ends (complete s status handled r) run (fun _ => Quitted s.retryCost n pool true)
      fun _ _ => False := by
  unfold complete
  refine ((remember_footprint _).ends_of_no_failure (by simp) run).bind fun _ remembered hf => ?_
  refine (returnCapacity_quits (idle_dependsOn _ _ _ (by decide) hf h)).bind fun _ returned h => ?_
  refine ((announce_footprint _).ends_of_no_failure (by simp) returned).bind fun _ _ hf => ?_
  exact quitted_dependsOn true _ _ _ (by decide) hf h

theorem giveUp_quits (h : Idle s.retryCost n pool run) :
    Quitted s.retryCost n pool false (giveUp s run) := by
  have hback : Quitted s.retryCost n pool false (giveCapacityBack s run) := by
    have htook := h.1.took
    unfold giveCapacityBack
    cases n with
    | zero =>
      rw [htook, if_neg (by simp)]
      exact ⟨⟨h.1.taken, h.1.returned⟩, h.2⟩
    | succ n =>
      rw [htook, if_pos (by simp)]
      exact h.quits rfl rfl rfl
  exact quitted_dependsOn false _ _ _ (by decide) (rewind_frame _) hback

/-! ### Paying -/

theorem admits_moves (h : Idle s.retryCost n pool run) (failure : Error) (number : Nat) :
    Ends (admits s o failure number) run (fun _ => Moved s.retryCost n pool)
      fun _ => Moved s.retryCost n pool := by
  refine (admits_ends s o failure number run).mono ?_ fun _ _ h => h.elim
  intro admitted run' hadmission
  obtain ⟨howes, rfl⟩ := h
  cases hadmission with
  | unrepeatable _ same =>
    rw [same]
    exact .inl ⟨howes, rfl⟩
  | refused _ unpaid left took journal =>
    rw [RetryPool.acquire_of_refused unpaid] at left
    exact .inl ⟨howes.append (k := 0) journal rfl rfl (took.trans howes.took), left⟩
  | free _ failed _ _ kept took journal =>
    exact .inl ⟨howes.append (k := 0) journal rfl rfl (took.trans howes.took), kept⟩
  | paid _ failed _ _ taken left took journal =>
    refine .inr ⟨taken, howes.append (k := 1) journal rfl rfl ?_, left⟩
    rw [took, decide_eq_true (Nat.succ_pos n)]

theorem idle_answerInvariant (s : CallSetting σ α) (n : Nat) (pool : RetryPool) :
    AnswerInvariant s capacityEffects (Idle s.retryCost n pool)
      fun _ => Quitted s.retryCost n pool true where
  dependsOn := idle_dependsOn
  apart := by decide
  complete := fun status handled r _ h =>
    (complete_quits h status handled r).mono (fun _ _ h => h) fun _ _ h => h.elim
  correctClock := fun headers e _ h =>
    (correctClock_footprint s headers e).keeps idle_dependsOn (by decide) h

theorem conclude_moves
    (outcome : Outcome σ α (decide (tally.authRetries < s.limits.authRetries)))
    (h : outcome.Leaves s (fun _ => Quitted s.retryCost n pool true) (Idle s.retryCost n pool)
      run) :
    Ends (conclude s o tally outcome) run
      (fun t run' => match t with
        | .finished _ => Quitted s.retryCost n pool true run'
        | .again .. => Moved s.retryCost n pool run')
      fun _ => Moved s.retryCost n pool := by
  have hcount : ∀ (f : ClientMetrics → ClientMetrics) (run : Run σ),
      Moved s.retryCost n pool run →
      Ends (countForClient s f) run (fun _ => Moved s.retryCost n pool)
        fun _ => Moved s.retryCost n pool := by
    intro f run h
    have hact : Footprint [.clientMetrics] (countForClient s f) := .countForClient s f (by decide)
    exact hact.keeps moved_dependsOn (by decide) h
  unfold conclude
  cases outcome with
  | success response => exact h
  | redirect target =>
    dsimp only
    split
    · exact (hcount _ _ (.inl h)).bind fun _ _ h => h
    · exact .inl h
  | authRetry parameters allowed => exact .inl h.2
  | retryable failure =>
    refine ((countException_footprint.keeps idle_dependsOn (by decide) h).mono (fun _ _ h => h)
      fun _ _ h => .inl h).bind fun _ _ h => ?_
    split
    · refine (admits_moves h failure _).bind fun admitted _ h => ?_
      split
      · exact (hcount _ _ h).bind fun _ _ h => h
      · exact h
    · exact .inl h

/-! ### Steps -/

/-- What has been found out in a phase in which the call goes on. -/
theorem moves_of_moved {phase phase' : Phase σ α} (going : phase.isOver = false)
    (haccounts : ∀ m, Owes s.retryCost m run → phase'.Accounts s.retryCost m run)
    (still : phase'.isOver = false) (h : Moved s.retryCost n pool run) :
    Moves s.retryCost n pool phase phase' run := by
  rcases h with ⟨howes, hpool⟩ | ⟨hgranted, howes, hpool⟩
  · exact .idle going still (haccounts n howes) hpool
  · exact .pays going still hgranted (haccounts (n + 1) howes) hpool

theorem moves_of_quitted {phase : Phase σ α} (going : phase.isOver = false)
    (result : Except Error (Response α)) (h : Quitted s.retryCost n pool result.isOk run) :
    Moves s.retryCost n pool phase (.ended result) run :=
  .quits going result rfl h.1 h.2

theorem arrive_moves (h : Idle s.retryCost n pool run) (limit : Option Duration)
    (answer : Except TransportError HttpResponse) :
    Ends (arrive s o tally limit answer) run
      (fun t run' => match t with
        | .finished _ => Quitted s.retryCost n pool true run'
        | .again .. => Moved s.retryCost n pool run')
      fun _ => Moved s.retryCost n pool := by
  unfold arrive
  refine Ends.bind (ends_onFailure.mpr
    (((idle_answerInvariant s n pool).answerRule.interpret h limit answer).mono
      (fun _ _ h => h) fun _ run h => .inl ?_)) fun outcome _ h => conclude_moves outcome h
  exact idle_dependsOn _ _ _ (by decide) (countFailedAttempt_frame run) h

/-- From whatever pool it finds, a step of a call makes one move. -/
theorem step_moves {phase : Phase σ α} (h : phase.Accounts s.retryCost n run) :
    Moves s.retryCost n run.client.pool phase (step s (phase, run)).1 (step s (phase, run)).2 := by
  cases phase with
  | outset =>
    obtain ⟨rfl, howes⟩ := h
    refine Ends.phaseAfter (P := Moves s.retryCost 0 run.client.pool .outset) ?_
    refine ((launch_footprint s).keeps idle_dependsOn (by decide) ⟨howes, rfl⟩).mono ?_ ?_
    · exact fun _ _ h => moves_of_moved rfl (fun _ h => h) rfl (.inl h)
    · exact fun e run' h => moves_of_quitted rfl (.error e) ⟨⟨h.1.taken, h.1.returned⟩, h.2⟩
  | begun =>
    refine Ends.phaseAfter (P := Moves s.retryCost n run.client.pool .begun) ?_
    refine (markOrigin_footprint.keeps idle_dependsOn (by decide) ⟨h, rfl⟩).mono ?_ ?_
    · exact fun _ _ h => moves_of_moved rfl (fun _ h => h) rfl (.inl h)
    · exact fun _ _ h => moves_of_moved rfl (fun _ h => h) rfl (.inl h)
  | ready o tally directive =>
    refine Ends.phaseAfter (P := Moves s.retryCost n run.client.pool (.ready o tally directive)) ?_
    refine ((depart_footprint s o tally directive).keeps idle_dependsOn (by decide)
      ⟨h, rfl⟩).mono ?_ ?_
    · exact fun _ _ h => moves_of_moved rfl (fun _ h => h) rfl (.inl h)
    · exact fun _ _ h => moves_of_moved rfl (fun _ h => h) rfl (.inl h)
  | waiting o tally limit answer =>
    refine Ends.phaseAfter
      (P := Moves s.retryCost n run.client.pool (.waiting o tally limit answer)) ?_
    refine (arrive_moves ⟨h, rfl⟩ limit answer).mono ?_ ?_
    · intro t run' h
      cases t with
      | finished response => exact moves_of_quitted rfl (.ok response) h
      | again tally' directive' less => exact moves_of_moved rfl (fun _ h => h) rfl h
    · exact fun _ _ h => moves_of_moved rfl (fun _ h => h) rfl h
  | failing e => exact moves_of_quitted rfl (.error e) (giveUp_quits ⟨h, rfl⟩)
  | ended result => exact .rests rfl h rfl

end CallM

end ServiceCall
