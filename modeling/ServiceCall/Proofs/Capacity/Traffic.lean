import Mathlib.Algebra.BigOperators.Group.Finset.Basic
import Mathlib.Data.Fintype.BigOperators
import Mathlib.Logic.Relation
import ServiceCall.Proofs.Call.Closing
import ServiceCall.Proofs.Capacity.Sharing

/-!
Traffic. Any number of calls share the pool of a client. Their steps interleave in any order, and
what a call shares with others may have changed in any way when it makes its next step; as no step
takes from the pool and gives back to it, nor does either twice, no finer order is left out. What
is missing from the pool is never less than what the calls have taken and not given back, and
never more than what they withhold, however often capacity that was given back got lost.
-/

namespace ServiceCall

variable {σ α ι : Type}

/-! ### One move -/

namespace Moves

variable {cost n maximum available : Nat} {pool : RetryPool} {phase phase' : Phase σ α}
  {run run' : Run σ}

/-- How a step changes what there is in the pool and on the account of its call. -/
structure Balances (cost maximum available available' : Nat) (phase phase' : Phase σ α)
    (run run' : Run σ) : Prop where
  account : ∃ m, phase'.Accounts cost m run'
  pool : run'.client.pool.Holds maximum available'
  covered : run'.journal.taken.sum + (maximum - available) + run.journal.returned.sum ≤
    run.journal.taken.sum + (maximum - available') + run'.journal.returned.sum
  owed : ∀ rest, maximum - available ≤ rest + phase.outstanding cost run.journal →
    maximum - available' ≤ rest + phase'.outstanding cost run'.journal

theorem balances_of_rests (h : phase.Accounts cost n run) (h' : phase.Accounts cost n run')
    (hpool : run'.client.pool.Holds maximum available) :
    Balances cost maximum available available phase phase run run' := by
  have htaken : run'.journal.taken = run.journal.taken := h'.taken.trans h.taken.symm
  have hreturned : run'.journal.returned = run.journal.returned :=
    h'.returned.trans h.returned.symm
  refine ⟨⟨n, h'⟩, hpool, ?_, fun rest howed => ?_⟩
  · rw [htaken, hreturned]
  · rw [Phase.outstanding, htaken]
    exact howed

theorem balances_of_idle (h : phase.Accounts cost n run) (h' : phase'.Accounts cost n run')
    (going : phase.isOver = false) (still : phase'.isOver = false)
    (hpool : run'.client.pool.Holds maximum available) :
    Balances cost maximum available available phase phase' run run' := by
  refine ⟨⟨n, h'⟩, hpool, ?_, fun rest howed => ?_⟩
  · rw [h.sum_taken, h'.sum_taken, (h.owes going).returned, (h'.owes still).returned]
  · rw [h.outstanding_of_going going] at howed
    rwa [h'.outstanding_of_going still]

theorem balances_of_pays (h : phase.Accounts cost n run) (h' : phase'.Accounts cost (n + 1) run')
    (going : phase.isOver = false) (still : phase'.isOver = false)
    (hpool : pool.Holds maximum available) (granted : (pool.acquire cost).1 = true)
    (left : run'.client.pool = (pool.acquire cost).2) :
    Balances cost maximum available (available - cost) phase phase' run run' := by
  have hcost : cost ≤ available := hpool.le_of_granted granted
  have within : available ≤ maximum := hpool.elim fun within _ => within
  have hsucc : (n + 1) * cost = n * cost + cost := Nat.succ_mul n cost
  refine ⟨⟨n + 1, h'⟩, left ▸ (hpool.acquire_of_le hcost).2, ?_, fun rest howed => ?_⟩
  · rw [h.sum_taken, h'.sum_taken, (h.owes going).returned, (h'.owes still).returned]
    omega
  · rw [h.outstanding_of_going going] at howed
    rw [h'.outstanding_of_going still]
    omega

/-- What is given back beyond the maximum is missing from nowhere. -/
theorem balances_of_quits {result : Except Error (Response α)} (h : phase.Accounts cost n run)
    (h' : Quits cost n result.isOk run') (going : phase.isOver = false)
    (hpool : pool.Holds maximum available)
    (left : run'.client.pool = pool.releaseAll (due cost result.isOk n)) :
    Balances cost maximum available
      (min (available + (due cost result.isOk n).sum) maximum) phase (.ended result) run run' := by
  have hended : (Phase.ended result).Accounts cost n run' := h'
  have within : available ≤ maximum := hpool.elim fun within _ => within
  refine ⟨⟨n, h'⟩, left ▸ hpool.releaseAll _, ?_, fun rest howed => ?_⟩
  · rw [h.sum_taken, hended.sum_taken, (h.owes going).returned, h'.returned, List.sum_nil]
    omega
  · rw [h.outstanding_of_going going] at howed
    rw [h'.outstanding]
    -- Either nothing was withheld and the pool can only gain, or the account drops by the cost
    -- that comes back; where the maximum cuts that off, nothing is missing any more.
    cases n with
    | zero => omega
    | succ n =>
      have hsucc : (n + 1) * cost = n * cost + cost := Nat.succ_mul n cost
      simp only [due, Nat.add_eq_zero_iff, Nat.one_ne_zero, and_false, if_false,
        List.sum_singleton, Nat.add_sub_cancel]
      omega

theorem balances (hmoves : Moves cost n pool phase phase' run')
    (h : phase.Accounts cost n run) (hpool : pool.Holds maximum available) :
    ∃ available', Balances cost maximum available available' phase phase' run run' := by
  cases hmoves with
  | rests same account kept =>
    subst same
    exact ⟨_, balances_of_rests h account (kept ▸ hpool)⟩
  | idle going still same kept => exact ⟨_, balances_of_idle h same going still (kept ▸ hpool)⟩
  | pays going still granted more left =>
    exact ⟨_, balances_of_pays h more going still hpool granted left⟩
  | quits going result ends settled left =>
    subst ends
    exact ⟨_, balances_of_quits h settled going hpool left⟩

end Moves

/-! ### Many calls -/

/-- A call as somebody asks for it. -/
structure CallOrder (σ : Type) where
  α : Type
  handlers : Handlers σ α
  context : CallContext σ
  request : HttpRequest σ
  startedAt : Nat

def CallOrder.setting (c : Client σ) (order : CallOrder σ) : CallSetting σ order.α :=
  c.setting order.context order.handlers order.request.subject order.startedAt

/-- The pool of a client, and where each of its calls stands. -/
structure Traffic (orders : ι → CallOrder σ) where
  pool : RetryPool
  calls : ∀ i, Phase σ (orders i).α × Run σ

namespace Traffic

variable {orders : ι → CallOrder σ}

/-- No call has done anything. -/
def start (orders : ι → CallOrder σ) (state : ClientState) (world : σ) : Traffic orders where
  pool := state.pool
  calls := fun i => (.outset, Client.run state (orders i).request world)

/-- A call has come to stand elsewhere, and has left the pool as it finds it there. -/
def place [DecidableEq ι] (t : Traffic orders) (i : ι) (call : Phase σ (orders i).α × Run σ) :
    Traffic orders where
  pool := call.2.client.pool
  calls := Function.update t.calls i call

@[simp]
theorem place_self [DecidableEq ι] (t : Traffic orders) (i : ι)
    (call : Phase σ (orders i).α × Run σ) : (t.place i call).calls i = call :=
  Function.update_self ..

theorem place_of_ne [DecidableEq ι] (t : Traffic orders) {i j : ι} (h : j ≠ i)
    (call : Phase σ (orders i).α × Run σ) : (t.place i call).calls j = t.calls j :=
  Function.update_of_ne h ..

/-- A call makes a step from the state of its client and the world that it finds. -/
def advance [DecidableEq ι] (c : Client σ) (t : Traffic orders) (i : ι) (client : ClientState)
    (world : σ) : Traffic orders :=
  t.place i (CallM.step ((orders i).setting c)
    ((t.calls i).1, { (t.calls i).2 with client, world }))

/-- Some call makes a step. The pool that it finds is the one that the step before it, of
whichever call, has left; all else that calls share may be anything. -/
def Next [DecidableEq ι] (c : Client σ) (t t' : Traffic orders) : Prop :=
  ∃ i client world, client.pool = t.pool ∧ t' = t.advance c i client world

/-- What a call has taken from the pool. -/
def taken (t : Traffic orders) (i : ι) : List Nat := (t.calls i).2.journal.taken

/-- What a call has given back to the pool. -/
def returned (t : Traffic orders) (i : ι) : List Nat := (t.calls i).2.journal.returned

/-- What a call says of itself. -/
def metrics (t : Traffic orders) (i : ι) : CallMetrics := (t.calls i).2.metrics

/-- What a call withholds from the pool. -/
def outstanding (cost : Nat) (t : Traffic orders) (i : ι) : Nat :=
  (t.calls i).1.outstanding cost (t.calls i).2.journal

/-- The books of a client whose pool held `initial` when no call had done anything. -/
structure Balanced [Fintype ι] (cost maximum initial available : Nat) (t : Traffic orders) :
    Prop where
  accounts : ∀ i, ∃ n, (t.calls i).1.Accounts cost n (t.calls i).2
  pool : t.pool.Holds maximum available
  covered : (maximum - initial) + ∑ i, (t.taken i).sum ≤
    (maximum - available) + ∑ i, (t.returned i).sum
  owed : maximum - available ≤ (maximum - initial) + ∑ i, t.outstanding cost i

section

variable [Fintype ι] {t : Traffic orders} {cost maximum initial available : Nat}

theorem start_balanced {state : ClientState} (hpool : state.pool.Holds maximum initial)
    (world : σ) : (start orders state world).Balanced cost maximum initial initial where
  accounts := fun _ => ⟨0, rfl, rfl, rfl, rfl⟩
  pool := hpool
  covered := by simp [taken, returned, start, Client.run, Journal.taken, Journal.returned]
  owed := Nat.le_add_right _ _

variable [DecidableEq ι] {c : Client σ} {t' : Traffic orders}

/-- Of a sum over all calls, one call changes one summand. -/
theorem exists_sum_place (t : Traffic orders) (i : ι)
    (f : ∀ j, Phase σ (orders j).α × Run σ → Nat) :
    ∃ rest, ∑ j, f j (t.calls j) = rest + f i (t.calls i) ∧
      ∀ call, ∑ j, f j ((t.place i call).calls j) = rest + f i call := by
  refine ⟨∑ j ∈ Finset.univ.erase i, f j (t.calls j),
    (Finset.sum_erase_add _ _ (Finset.mem_univ i)).symm, fun call => ?_⟩
  rw [← Finset.sum_erase_add _ _ (Finset.mem_univ i), place_self]
  congr 1
  refine Finset.sum_congr rfl fun j hj => ?_
  rw [place_of_ne t (Finset.ne_of_mem_erase hj)]

/-- The books stay in balance when one call makes a move. -/
theorem Balanced.place (h : t.Balanced cost maximum initial available) {i : ι}
    {call : Phase σ (orders i).α × Run σ} {available' : Nat}
    (hcall : Moves.Balances cost maximum available available' (t.calls i).1 call.1 (t.calls i).2
      call.2) :
    (t.place i call).Balanced cost maximum initial available' where
  accounts := by
    intro j
    by_cases hj : j = i
    · subst hj
      rw [place_self]
      exact hcall.account
    · rw [place_of_ne t hj]
      exact h.accounts j
  pool := hcall.pool
  covered := by
    obtain ⟨taken, htaken, htaken'⟩ :=
      t.exists_sum_place i fun _ call => call.2.journal.taken.sum
    obtain ⟨returned, hreturned, hreturned'⟩ :=
      t.exists_sum_place i fun _ call => call.2.journal.returned.sum
    have hbefore := h.covered
    have hmove := hcall.covered
    simp only [Traffic.taken, Traffic.returned] at hbefore ⊢
    rw [htaken, hreturned] at hbefore
    rw [htaken', hreturned']
    omega
  owed := by
    obtain ⟨rest, hrest, hrest'⟩ :=
      t.exists_sum_place i fun _ call => call.1.outstanding cost call.2.journal
    have hbefore := h.owed
    simp only [outstanding] at hbefore ⊢
    rw [hrest, ← Nat.add_assoc] at hbefore
    rw [hrest', ← Nat.add_assoc]
    exact hcall.owed _ hbefore

theorem Balanced.next (h : t.Balanced c.config.capacityPolicy.cost maximum initial available)
    (hnext : Next c t t') :
    ∃ available', t'.Balanced c.config.capacityPolicy.cost maximum initial available' := by
  obtain ⟨i, client, world, hclient, rfl⟩ := hnext
  obtain ⟨n, haccount⟩ := h.accounts i
  -- Whatever the others have changed, the call finds its own account as it left it.
  have hfound : (t.calls i).1.Accounts ((orders i).setting c).retryCost n
      { (t.calls i).2 with client, world } := haccount.congr rfl rfl
  obtain ⟨available', hbalances⟩ :=
    (CallM.step_moves hfound).balances haccount (hclient.symm ▸ h.pool)
  exact ⟨available', h.place hbalances⟩

/-- The books are in balance whatever has happened. -/
theorem exists_balanced {state : ClientState} {world : σ}
    (hpool : state.pool.Holds maximum initial)
    (hreach : Relation.ReflTransGen (Next c) (start orders state world) t) :
    ∃ available, t.Balanced c.config.capacityPolicy.cost maximum initial available := by
  induction hreach with
  | refl => exact ⟨initial, start_balanced hpool world⟩
  | tail _ hnext ih =>
    obtain ⟨available, h⟩ := ih
    exact h.next hnext

end

/-! ### Schedules -/

section

variable [DecidableEq ι] (c : Client σ)

/-- A call makes a step, and finds everything but the pool as it left it. -/
def turn (t : Traffic orders) (i : ι) : Traffic orders :=
  t.advance c i { (t.calls i).2.client with pool := t.pool } (t.calls i).2.world

/-- The calls make their steps in the order of the list. -/
def schedule (t : Traffic orders) (order : List ι) : Traffic orders :=
  order.foldl (turn c) t

theorem schedule_reaches (t : Traffic orders) (order : List ι) :
    Relation.ReflTransGen (Next c) t (t.schedule c order) := by
  induction order generalizing t with
  | nil => exact .refl
  | cons i order ih => exact .head ⟨i, _, _, rfl, rfl⟩ (ih (t.turn c i))

theorem schedule_concat (t : Traffic orders) (order : List ι) (i : ι) :
    t.schedule c (order ++ [i]) = (t.schedule c order).turn c i := List.foldl_concat ..

theorem turn_of_own_pool {t : Traffic orders} {i : ι}
    (hpool : t.pool = (t.calls i).2.client.pool) :
    t.turn c i = t.place i (CallM.step ((orders i).setting c) (t.calls i)) := by
  rw [turn, advance, hpool]

/-- A call that has the client to itself makes the steps of a single call. -/
theorem schedule_replicate (state : ClientState) (world : σ) (i : ι) (n : Nat) :
    let t := (start orders state world).schedule c (List.replicate n i)
    t.calls i = (CallM.step ((orders i).setting c))^[n]
      (.outset, Client.run state (orders i).request world) ∧
    t.pool = (t.calls i).2.client.pool := by
  induction n with
  | zero => exact ⟨rfl, rfl⟩
  | succ n ih =>
    obtain ⟨hcall, hpool⟩ := ih
    rw [List.replicate_succ', schedule_concat, turn_of_own_pool c hpool]
    dsimp only
    rw [place_self, hcall, Function.iterate_succ_apply']
    exact ⟨rfl, rfl⟩

variable {c}

/-- What becomes of a call that has the client to itself is what is reported of it. -/
theorem exists_schedule_ended {state : ClientState} {world : σ} {i : ι}
    (hs : state.isShutDown = false)
    (hstarted : (orders i).startedAt = (c.surroundings.now world).1) :
    let report :=
      (c.call (orders i).handlers (orders i).context state (orders i).request world).1
    ∃ n ≤ c.maxSteps,
      let t := (start orders state (c.surroundings.now world).2).schedule c (List.replicate n i)
      (t.calls i).1 = .ended report.result ∧ t.pool = report.client.pool ∧
        t.taken i = report.journal.taken ∧ t.metrics i = report.context.metrics := by
  intro report
  obtain ⟨n, hn, result, conducted, last, hstands, hframe, hreport⟩ :=
    @Client.exists_standsAfter_ended σ _ c (orders i).handlers (orders i).context state
      (orders i).request world hs
  obtain ⟨hcall, hpool⟩ :=
    @schedule_replicate σ ι orders _ c state (c.surroundings.now world).2 i n
  have hsetting : (orders i).setting c =
      c.settingAt (orders i).handlers (orders i).context (orders i).request world := by
    rw [CallOrder.setting, hstarted]
    rfl
  rw [hsetting] at hcall
  have hended := hcall.trans hstands.2
  refine ⟨n, hn, ?_, ?_, ?_, ?_⟩
  · rw [hended, show report.result = result from hreport.result]
  · rw [hpool, hended, show report.client = last.client from hreport.client]
    exact (hframe.pool (by decide)).symm
  · rw [taken, hended, show report.journal = last.journal from hreport.journal,
      hframe.taken_eq (by decide)]
  · rw [metrics, hended]
    exact (congrArg (·.1.context.metrics) hstands.call_eq).symm

end

end Traffic

/-- Calls that share a pool neither overdraw it nor leak, however their steps interleave. What is
missing covers all that was granted and not given back, and what the calls withhold covers what
is missing; a call that is over withholds one retry less than it has paid for. Of a pool that held
`initial` before any call did anything, `maximum - initial` was missing already. -/
theorem capacity_of_traffic [Fintype ι] [DecidableEq ι] (c : Client σ) (orders : ι → CallOrder σ)
    (state : ClientState) (world : σ) {maximum initial : Nat}
    (hpool : state.pool.Holds maximum initial) (t : Traffic orders)
    (hreach : Relation.ReflTransGen (Traffic.Next c) (.start orders state world) t) :
    let cost := c.config.capacityPolicy.cost
    (∀ i, ∃ n, t.taken i = List.replicate n cost ∧
      t.returned i = (t.calls i).1.given cost n ∧
      t.outstanding cost i = (if (t.calls i).1.isOver then n - 1 else n) * cost) ∧
    ∃ available, t.pool.Holds maximum available ∧ available ≤ maximum ∧
      t.pool.consumed? = some (maximum - available) ∧
      (maximum - initial) + ∑ i, (t.taken i).sum ≤
        (maximum - available) + ∑ i, (t.returned i).sum ∧
      maximum - available ≤ (maximum - initial) + ∑ i, t.outstanding cost i ∧
      ((∀ i, (t.calls i).1.isOver = true) →
        maximum - available ≤ (maximum - initial) + ∑ i, ((t.taken i).length - 1) * cost) := by
  intro cost
  obtain ⟨available, hbalanced⟩ := Traffic.exists_balanced hpool hreach
  have hconsumed : available ≤ maximum ∧ t.pool.consumed? = some (maximum - available) := by
    obtain ⟨within, hlimited⟩ := hbalanced.pool
    exact ⟨within, by rw [hlimited]; rfl⟩
  refine ⟨fun i => ?_, available, hbalanced.pool, hconsumed.1, hconsumed.2, hbalanced.covered,
    hbalanced.owed, fun hover => ?_⟩
  · obtain ⟨n, haccount⟩ := hbalanced.accounts i
    refine ⟨n, haccount.taken, haccount.returned, ?_⟩
    rw [Traffic.outstanding, Phase.outstanding, haccount.taken, List.length_replicate]
  · have hended : ∑ i, t.outstanding cost i = ∑ i, ((t.taken i).length - 1) * cost :=
      Finset.sum_congr rfl fun i _ => by
        rw [Traffic.outstanding, Phase.outstanding, if_pos (hover i), Traffic.taken]
    rw [← hended]
    exact hbalanced.owed

/-- The same call, asked for twice. -/
def Rehearsal.twice (_ : Bool) : CallOrder Rehearsal.Stage where
  α := Unit
  handlers := Rehearsal.handlers .tooLarge
  context := Rehearsal.client.context ⟨0⟩
  request := Rehearsal.request
  startedAt := 0

open Rehearsal in
theorem capacity_of_alternating_calls :
    let state : ClientState := { pool := .full 20, metadata := default }
    let world : Stage := { steps := [.timeout, .timeout, .answering .ok {}] }
    let order := (List.replicate 8 [false, true]).flatten
    let t := (Traffic.start twice state world).schedule client order
    state.pool.Holds 20 20 ∧
      Relation.ReflTransGen (Traffic.Next client) (.start twice state world) t ∧
      (∀ i, (t.calls i).1.isOver = true ∧ t.taken i = [5, 5] ∧ t.returned i = [5]) ∧
      ∃ available, t.pool.Holds 20 available ∧ 10 ≤ available := by
  intro state world order t
  have hpool : state.pool.Holds 20 20 := ⟨by decide, rfl⟩
  have hreach := Traffic.schedule_reaches client (.start twice state world) order
  have hcalls : ∀ i, (t.calls i).1.isOver = true ∧ t.taken i = [5, 5] ∧ t.returned i = [5] := by
    simp only [t, Traffic.taken, Traffic.returned]
    decide +kernel
  obtain ⟨-, available, hheld, hwithin, -, -, -, hended⟩ :=
    capacity_of_traffic client twice state world hpool t hreach
  have hmissing := hended fun i => (hcalls i).1
  simp only [(hcalls _).2.1] at hmissing
  have hsum : ∑ i : Bool, ([5, 5].length - 1) * client.config.capacityPolicy.cost = 10 := rfl
  refine ⟨hpool, hreach, hcalls, available, hheld, ?_⟩
  omega

end ServiceCall
