import ServiceCall.Proofs.Call.Admission
import ServiceCall.Proofs.Call.Turns
import ServiceCall.Proofs.Capacity.Ledger
import ServiceCall.Rehearsal.Client

/-!
What a call costs. Whatever becomes of a call, it gives back the cost of one retry if it paid for
any, and nothing else is missing from the pool; a call that succeeds without having paid adds 1.
-/

namespace ServiceCall

variable {σ α : Type}

/-- What a call gives back that paid for `n` retries. -/
def due (cost : Nat) (succeeded : Bool) (n : Nat) : List Nat :=
  if n = 0 then if succeeded then [1] else [] else [cost]

/-- The flag of a call tells what is due when it succeeds. -/
theorem due_of_success {cost n : Nat} {took : Bool} (h : took = decide (0 < n)) :
    due cost true n = [if took then cost else 1] := by
  rw [h, due]
  cases n <;> simp

/-- Some retries have been paid for, and nothing was given back. -/
def Owing (s : CallSetting σ α) (maximum available : Nat) (run : Run σ) : Prop :=
  ∃ n, Ledger s.retryCost maximum available n [] run

/-- What was due has been given back. -/
def Settled (s : CallSetting σ α) (maximum available : Nat) (succeeded : Bool) (run : Run σ) :
    Prop :=
  ∃ n, Ledger s.retryCost maximum available n (due s.retryCost succeeded n) run

variable {s : CallSetting σ α} {maximum available : Nat} {run : Run σ}

theorem owing_dependsOn : DependsOn capacityEffects (Owing s maximum available) := by
  rintro effects run run' hn hf ⟨n, h⟩
  exact ⟨n, h.frame hf hn⟩

theorem settled_dependsOn (succeeded : Bool) :
    DependsOn capacityEffects (Settled s maximum available succeeded) := by
  rintro effects run run' hn hf ⟨n, h⟩
  exact ⟨n, h.frame hf hn⟩

namespace CallM

/-! ### Giving back -/

theorem returnCapacity_settles (h : Owing s maximum available run) :
    Ends (returnCapacity s) run (fun _ => Settled s maximum available true) fun _ _ => False := by
  obtain ⟨n, h⟩ := h
  unfold returnCapacity
  simp only [ends_bind, ends_get, ends_record, ends_modify]
  refine ⟨n, ?_⟩
  rw [due_of_success h.took]
  exact h.give _ rfl rfl rfl

theorem complete_settles (h : Owing s maximum available run) (status : Status)
    (handled : Handled α) (r : HttpResponse) :
    Ends (complete s status handled r) run (fun _ => Settled s maximum available true)
      fun _ => Owing s maximum available := by
  unfold complete
  refine ((remember_footprint _).keeps owing_dependsOn (by decide) h).bind fun _ run' h => ?_
  refine ends_bind.mpr ((returnCapacity_settles h).mono (fun _ run' h => ?_) fun _ _ h => h.elim)
  refine ends_bind.mpr (((announce_footprint _).ends_of_no_failure (by simp) run').mono
    (fun _ _ hf => ?_) fun _ _ h => h)
  exact settled_dependsOn true _ _ _ (by decide) hf h

theorem giveCapacityBack_settled (h : Owing s maximum available run) :
    Settled s maximum available false (giveCapacityBack s run) := by
  obtain ⟨n, h⟩ := h
  refine ⟨n, ?_⟩
  have htook := h.took
  unfold giveCapacityBack
  cases n with
  | zero => rwa [htook, if_neg (by simp)]
  | succ n =>
    rw [htook, if_pos (by simp)]
    exact h.give _ rfl rfl htook.symm

/-! ### Paying -/

theorem admits_owing (h : Owing s maximum available run) (o : Origin) (failure : Error)
    (number : Nat) :
    Ends (admits s o failure number) run (fun _ => Owing s maximum available)
      fun _ => Owing s maximum available := by
  refine (admits_ends s o failure number run).mono ?_ fun _ _ h => h.elim
  intro admitted run' hadmission
  obtain ⟨n, h⟩ := h
  cases hadmission with
  | unrepeatable _ same =>
    rw [same]
    exact ⟨n, h⟩
  | refused _ unpaid kept took journal =>
    rw [RetryPool.acquire_of_refused unpaid] at kept
    exact ⟨n, h.idle journal (by simp [Event.kind]) (by simp [Event.kind]) kept took⟩
  | free _ failed _ _ kept took journal =>
    exact ⟨n, h.idle journal (by simp [Event.kind]) (by simp [Event.kind]) kept took⟩
  | paid _ failed tells throttling taken left took journal =>
    rw [← tells.error] at throttling
    exact ⟨n + 1, h.pay admitted throttling journal taken left took⟩

/-! ### The call -/

theorem owing_attemptInvariant (s : CallSetting σ α) (maximum available : Nat) :
    AttemptInvariant s capacityEffects (Owing s maximum available)
      fun _ => Settled s maximum available true where
  dependsOn := owing_dependsOn
  apart := by decide
  complete := fun status handled r run h => complete_settles h status handled r
  correctClock := fun headers e run h =>
    (correctClock_footprint s headers e).keeps owing_dependsOn (by decide) h
  quiet := by decide
  sign := fun signer credentials run h =>
    (sign_footprint signer credentials).keeps owing_dependsOn (by decide) h
  dispatch := fun limit run h => (dispatch_footprint s limit).keeps owing_dependsOn (by decide) h
  admits := fun o failure number run h => admits_owing h o failure number

theorem conduct_settles (h : Ledger s.retryCost maximum available 0 [] run) :
    Ends (conduct s) run (fun _ => Settled s maximum available true)
      fun _ => Settled s maximum available false := by
  refine conduct_ends (fun e stopped hf => ⟨0, h.frame hf (by decide)⟩) fun outset _ hf => ?_
  refine ((owing_attemptInvariant s maximum available).attempts ⟨0, h.frame hf (by decide)⟩).mono
    (fun _ _ h => h) fun _ last h => ?_
  exact settled_dependsOn false _ _ _ (by decide) (rewind_frame _) (giveCapacityBack_settled h)

theorem call_settles (h : Ledger s.retryCost maximum available 0 [] run) :
    Ends (call s) run (fun result => Settled s maximum available result.isOk)
      fun _ _ => False := by
  refine call_ends fun begun _ hbegun => ?_
  refine (conduct_settles (h.frame hbegun (by decide))).mono ?_ ?_
  · exact fun response _ h last hlast => settled_dependsOn true _ _ _ (by decide) hlast h
  · exact fun e _ h last hlast => settled_dependsOn false _ _ _ (by decide) hlast h

end CallM

/-- What a settled ledger says of the pool. -/
theorem Ledger.pool_of_due {cost n : Nat} {succeeded : Bool}
    (h : Ledger cost maximum available n (due cost succeeded n) run) :
    run.client.pool.Holds maximum
      (if n = 0 then if succeeded then min maximum (available + 1) else available
        else available - n * cost + cost) := by
  have hwithin := h.within
  have hcovered := h.covered
  convert h.pool using 1
  cases n with
  | zero => cases succeeded <;> simp [due] <;> omega
  | succ n =>
    have hsucc : (n + 1) * cost = n * cost + cost := Nat.succ_mul n cost
    simp only [due, Nat.add_eq_zero_iff, Nat.one_ne_zero, and_false, if_false, List.sum_singleton]
    omega

/-- With `n` retries paid for, each before the question whether to retry after a failure that is
not throttling, a call leaves the pool without the cost of `n - 1` retries; a call that has paid
for none adds 1 if it succeeds, and changes nothing if it fails. -/
theorem capacity_of_call (c : Client σ) (handlers : Handlers σ α) (context : CallContext σ)
    (state : ClientState) (request : HttpRequest σ) (world : σ) {maximum available : Nat}
    (hpool : state.pool.Holds maximum available) :
    let report := (c.call handlers context state request world).1
    let cost := c.config.capacityPolicy.cost
    let n := report.journal.taken.length
    report.journal.taken = List.replicate n cost ∧ report.journal.TakenToRetry ∧
      report.journal.returned =
        (if n = 0 then if report.result.isOk then [1] else [] else [cost]) ∧
      n * cost ≤ available ∧
      report.client.pool.Holds maximum
        (if n = 0 then if report.result.isOk then min maximum (available + 1) else available
          else available - n * cost + cost) := by
  obtain ⟨within, hlimited⟩ := hpool
  cases hs : state.isShutDown with
  | true =>
    rw [Client.call_of_isShutDown hs]
    exact ⟨rfl, Journal.takenToRetry_of_kind (by simp), rfl, by simp [Journal.taken],
      within, hlimited⟩
  | false =>
    have hstart := Ledger.start hlimited request (c.surroundings.now world).2
      c.config.capacityPolicy.cost
    have hcall := CallM.call_settles (s := c.settingAt handlers context request world) hstart
    obtain ⟨result, last, ⟨n, h⟩, hreport⟩ := Client.call_reports hs hcall
    have hn : last.journal.taken.length = n := by rw [h.taken, List.length_replicate]
    dsimp only
    rw [hreport.journal, hreport.client, hreport.result, hn]
    exact ⟨h.taken, h.toRetry, h.returned, h.covered, h.pool_of_due⟩

theorem capacity_of_retried_call :
    let state : ClientState := { pool := .limited 20 10 (by decide), metadata := default }
    let report := Rehearsal.rehearse Rehearsal.client .tooLarge (Rehearsal.client.context ⟨0⟩)
      state Rehearsal.request [.timeout, .answering .ok {}]
    state.pool.Holds 20 10 ∧ report.journal.taken = [5] ∧ report.journal.returned = [5] ∧
      report.client.pool.Holds 20 10 := by
  intro state report
  have hpool : state.pool.Holds 20 10 := ⟨by decide, rfl⟩
  have hn : report.journal.taken.length = 1 := by
    simp only [report, Rehearsal.rehearse, Client.call, CallM.call, CallM.conduct,
      CallM.attempts_eq_turnsIn]
    decide +kernel
  have h := capacity_of_call Rehearsal.client (Rehearsal.handlers .tooLarge)
    (Rehearsal.client.context ⟨0⟩) state Rehearsal.request
    { steps := [.timeout, .answering .ok {}] } hpool
  simp only [report, Rehearsal.rehearse] at hn ⊢
  simp only [hn] at h
  obtain ⟨htaken, -, hreturned, -, hafter⟩ := h
  exact ⟨hpool, htaken, hreturned, hafter⟩

end ServiceCall
