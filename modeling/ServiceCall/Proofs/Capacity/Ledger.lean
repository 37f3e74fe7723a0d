import Mathlib.Algebra.Order.Ring.Nat
import ServiceCall.Proofs.Call.Course

/-!
Ledgers: how the pool of a client stands after what a call has taken from it and given back. The
pool, the flag of the call and the journal tell the same story.
-/

namespace ServiceCall

/-! ### Pools -/

namespace RetryPool

/-- The pool is limited, and that much is left of it. -/
def Holds (maximum available : Nat) (pool : RetryPool) : Prop :=
  ∃ within, pool = .limited maximum available within

variable {pool : RetryPool} {maximum available : Nat}

theorem Holds.acquire_of_le (h : pool.Holds maximum available) {cost : Nat}
    (hc : cost ≤ available) :
    (pool.acquire cost).1 = true ∧ (pool.acquire cost).2.Holds maximum (available - cost) := by
  obtain ⟨within, rfl⟩ := h
  rw [acquire, if_neg (Nat.not_lt.mpr hc)]
  exact ⟨rfl, _, rfl⟩

theorem Holds.acquire_of_lt (h : pool.Holds maximum available) {cost : Nat}
    (hc : available < cost) : pool.acquire cost = (false, pool) := by
  obtain ⟨within, rfl⟩ := h
  rw [acquire, if_pos hc]

/-- A pool grants no more than it holds. -/
theorem Holds.le_of_granted (h : pool.Holds maximum available) {cost : Nat}
    (granted : (pool.acquire cost).1 = true) : cost ≤ available := by
  by_contra hlt
  rw [h.acquire_of_lt (Nat.not_le.mp hlt)] at granted
  exact Bool.false_ne_true granted

/-- A pool that refuses stays as it is. -/
theorem acquire_of_refused {cost : Nat} (refused : (pool.acquire cost).1 = false) :
    (pool.acquire cost).2 = pool := by
  cases pool with
  | unlimited => rfl
  | limited maximum available within =>
    by_cases hlt : available < cost
    · rw [acquire, if_pos hlt]
    · rw [acquire, if_neg hlt] at refused
      cases refused

theorem Holds.release (h : pool.Holds maximum available) (count : Nat) :
    (pool.release count).Holds maximum (min (available + count) maximum) := by
  obtain ⟨within, rfl⟩ := h
  exact ⟨_, rfl⟩

end RetryPool

/-! ### Journals -/

namespace Journal

variable {σ : Type} {j new : Journal σ}

/-- What was taken from the pool, in order. -/
def taken (j : Journal σ) : List Nat :=
  j.filterMap fun
    | .capacityTaken cost => some cost
    | _ => none

/-- What was given back to the pool, in order. -/
def returned (j : Journal σ) : List Nat :=
  j.filterMap fun
    | .capacityReturned count => some count
    | _ => none

/-- Capacity is taken for nothing but the question whether to retry after a failure that is not
throttling. -/
def TakenToRetry (j : Journal σ) : Prop :=
  ∀ before cost after, j = before ++ .capacityTaken cost :: after →
    ∃ failed admitted rest, after = .conditionAsked failed admitted :: rest ∧
      failed.error.isThrottling = false

theorem taken_append (j new : Journal σ) : (j ++ new).taken = j.taken ++ new.taken :=
  List.filterMap_append

theorem returned_append (j new : Journal σ) : (j ++ new).returned = j.returned ++ new.returned :=
  List.filterMap_append

theorem taken_eq_nil (h : ∀ e ∈ j, e.kind ≠ .capacityTaken) : j.taken = [] := by
  refine List.filterMap_eq_nil_iff.mpr fun e he => ?_
  have hk := h e he
  cases e <;> first | rfl | exact absurd rfl hk

theorem returned_eq_nil (h : ∀ e ∈ j, e.kind ≠ .capacityReturned) : j.returned = [] := by
  refine List.filterMap_eq_nil_iff.mpr fun e he => ?_
  have hk := h e he
  cases e <;> first | rfl | exact absurd rfl hk

theorem takenToRetry_of_kind (h : ∀ e ∈ j, e.kind ≠ .capacityTaken) : j.TakenToRetry := by
  rintro before cost after rfl
  exact absurd rfl (h (.capacityTaken cost) (by simp))

theorem TakenToRetry.append (h : j.TakenToRetry) (h' : new.TakenToRetry) :
    (j ++ new).TakenToRetry := by
  intro before cost after heq
  rcases List.append_eq_append_iff.mp heq with ⟨mid, rfl, hnew⟩ | ⟨mid, rfl, hmid⟩
  · exact h' mid cost after hnew
  · cases mid with
    | nil => exact h' [] cost after hmid.symm
    | cons e mid =>
      rw [List.cons_append, List.cons.injEq] at hmid
      obtain ⟨rfl, rfl⟩ := hmid
      obtain ⟨failed, admitted, rest, rfl, ht⟩ := h before cost mid rfl
      exact ⟨failed, admitted, rest ++ new, rfl, ht⟩

theorem takenToRetry_pair {failed : FailedAttempt σ} (ht : failed.error.isThrottling = false)
    (cost : Nat) (admitted : Bool) :
    TakenToRetry [.capacityTaken cost, .conditionAsked failed admitted] := by
  intro before cost' after heq
  cases before with
  | nil =>
    obtain ⟨-, rfl⟩ := List.cons.inj heq
    exact ⟨failed, admitted, [], rfl, ht⟩
  | cons e before =>
    obtain ⟨-, htail⟩ := List.cons.inj heq
    have hmem : (.capacityTaken cost' : Event σ) ∈ [.conditionAsked failed admitted] := by
      rw [htail]
      simp
    simp at hmem

end Journal

/-! ### Ledgers -/

variable {σ : Type}

section

variable {effects : List Effect} {run run' : Run σ}

theorem Frame.taken_eq (hf : Frame effects run run')
    (hn : .records .capacityTaken ∉ effects) : run'.journal.taken = run.journal.taken := by
  obtain ⟨new, hnew, hk⟩ := hf.journal
  have hnil : new.taken = [] := Journal.taken_eq_nil fun e he hkind => hn (hkind ▸ hk e he)
  rw [hnew, Journal.taken_append, hnil, List.append_nil]

theorem Frame.returned_eq (hf : Frame effects run run')
    (hn : .records .capacityReturned ∉ effects) : run'.journal.returned = run.journal.returned := by
  obtain ⟨new, hnew, hk⟩ := hf.journal
  have hnil : new.returned = [] := Journal.returned_eq_nil fun e he hkind => hn (hkind ▸ hk e he)
  rw [hnew, Journal.returned_append, hnil, List.append_nil]

end

/-- The pool held `available` when the call began; since then the cost was taken from it `n`
times, and `given` was given back. -/
structure Ledger (cost maximum available n : Nat) (given : List Nat) (run : Run σ) : Prop where
  taken : run.journal.taken = List.replicate n cost
  returned : run.journal.returned = given
  toRetry : run.journal.TakenToRetry
  within : available ≤ maximum
  covered : n * cost ≤ available
  pool : run.client.pool.Holds maximum (min (available - n * cost + given.sum) maximum)
  took : run.tookCapacity = decide (0 < n)

/-- What has to do with capacity, apart from questions to the rule for retries. -/
def capacityEffects : List Effect :=
  [.pool, .tookCapacity, .records .capacityTaken, .records .capacityReturned]

namespace Ledger

variable {cost maximum available n : Nat} {given : List Nat} {run run' : Run σ}
  {effects : List Effect}

theorem start {client : ClientState} {within : available ≤ maximum}
    (hpool : client.pool = .limited maximum available within) (request : HttpRequest σ) (world : σ)
    (cost : Nat) : Ledger cost maximum available 0 [] (Client.run client request world) where
  taken := rfl
  returned := rfl
  toRetry := Journal.takenToRetry_of_kind (by simp [Client.run])
  within := within
  covered := by simp
  pool := by
    rw [Nat.zero_mul, List.sum_nil, Nat.sub_zero, Nat.add_zero, Nat.min_eq_left within]
    exact ⟨within, hpool⟩
  took := rfl

/-- An entry for the new events of a journal. -/
theorem enter (h : Ledger cost maximum available n given run) {new : Journal σ} {k : Nat}
    (hj : run'.journal = run.journal ++ new) (htaken : new.taken = List.replicate k cost)
    (hnew : new.TakenToRetry) (hcovered : (n + k) * cost ≤ available)
    (hpool : run'.client.pool.Holds maximum
      (min (available - (n + k) * cost + (given ++ new.returned).sum) maximum))
    (htook : run'.tookCapacity = decide (0 < n + k)) :
    Ledger cost maximum available (n + k) (given ++ new.returned) run' where
  taken := by rw [hj, Journal.taken_append, h.taken, htaken, List.replicate_append_replicate]
  returned := by rw [hj, Journal.returned_append, h.returned]
  toRetry := by
    rw [hj]
    exact h.toRetry.append hnew
  within := h.within
  covered := hcovered
  pool := hpool
  took := htook

/-- Events that have nothing to do with capacity make no difference. -/
theorem idle (h : Ledger cost maximum available n given run) {new : Journal σ}
    (hj : run'.journal = run.journal ++ new) (htaken : ∀ e ∈ new, e.kind ≠ .capacityTaken)
    (hreturned : ∀ e ∈ new, e.kind ≠ .capacityReturned)
    (hpool : run'.client.pool = run.client.pool) (htook : run'.tookCapacity = run.tookCapacity) :
    Ledger cost maximum available n given run' := by
  have hnil := Journal.returned_eq_nil hreturned
  have h' := h.enter (k := 0) hj (Journal.taken_eq_nil htaken)
    (Journal.takenToRetry_of_kind htaken) h.covered
    (by rw [hnil, List.append_nil, hpool]; exact h.pool) (by rw [htook]; exact h.took)
  rwa [hnil, List.append_nil] at h'

theorem frame (h : Ledger cost maximum available n given run)
    (hf : Frame effects run run') (hn : ∀ effect ∈ capacityEffects, effect ∉ effects) :
    Ledger cost maximum available n given run' := by
  obtain ⟨new, hnew, hk⟩ := hf.journal
  refine h.idle hnew (fun e he hkind => ?_) (fun e he hkind => ?_) (hf.pool (hn _ (by decide)))
    (hf.tookCapacity (hn _ (by decide)))
  · exact hn (.records .capacityTaken) (by decide) (hkind ▸ hk e he)
  · exact hn (.records .capacityReturned) (by decide) (hkind ▸ hk e he)

theorem give (h : Ledger cost maximum available n [] run) (count : Nat)
    (hj : run'.journal = run.journal ++ [.capacityReturned count])
    (hpool : run'.client.pool = run.client.pool.release count)
    (htook : run'.tookCapacity = run.tookCapacity) :
    Ledger cost maximum available n [count] run' := by
  refine h.enter (k := 0) hj rfl (Journal.takenToRetry_of_kind (by simp [Event.kind])) h.covered
    ?_ (by rw [htook]; exact h.took)
  rw [hpool]
  convert h.pool.release count using 1
  simp only [Journal.returned, List.filterMap_cons, List.filterMap_nil, List.nil_append,
    List.sum_singleton, List.sum_nil, Nat.add_zero]
  omega

theorem pay (h : Ledger cost maximum available n [] run) (admitted : Bool)
    {failed : FailedAttempt σ} (ht : failed.error.isThrottling = false)
    (hj : run'.journal =
      run.journal ++ [.capacityTaken cost, .conditionAsked failed admitted])
    (hacq : (run.client.pool.acquire cost).1 = true)
    (hpool : run'.client.pool = (run.client.pool.acquire cost).2)
    (htook : run'.tookCapacity = true) :
    Ledger cost maximum available (n + 1) [] run' := by
  have hheld := h.pool
  simp only [List.sum_nil, Nat.add_zero] at hheld
  have hcost : cost ≤ min (available - n * cost) maximum := hheld.le_of_granted hacq
  have hwithin := h.within
  have hcovered := h.covered
  have hsucc : (n + 1) * cost = n * cost + cost := Nat.succ_mul n cost
  refine h.enter hj rfl (Journal.takenToRetry_pair ht cost admitted) (by omega) ?_
    (by simp [htook])
  rw [hpool]
  convert (hheld.acquire_of_le hcost).2 using 1
  simp only [Journal.returned, List.filterMap_cons, List.filterMap_nil, List.append_nil,
    List.sum_nil]
  omega

end Ledger

end ServiceCall
