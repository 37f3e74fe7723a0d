import ServiceCall.Text.Quoted

/-!
Capacity for retries, shared by all calls of a client: an admitted retry takes its cost from a
pool, and a call that ends gives some of it back. A pool never holds more than its maximum.
-/

namespace ServiceCall

def maxCount : Nat := 18446744073709551615

structure CapacityPolicy where
  cost : Nat
  retries : Nat
  deriving DecidableEq, Repr

namespace CapacityPolicy

def standard : CapacityPolicy := ⟨5, 100⟩

/-- A retry costs at least 1. -/
def withCost (p : CapacityPolicy) (cost : Nat) : CapacityPolicy :=
  { p with cost := if cost = 0 then 1 else cost }

def withRetries (p : CapacityPolicy) (retries : Nat) : CapacityPolicy := { p with retries }

def total (p : CapacityPolicy) : Nat := min (p.cost * p.retries) maxCount

def inspect (p : CapacityPolicy) : String :=
  Inspect.record "RetryCapacityPolicy" [
    ("retry_cost", s!"{p.cost}"), ("max_retries", s!"{p.retries}")]

end CapacityPolicy

inductive RetryPool where
  | unlimited
  | limited (maximum available : Nat) (within : available ≤ maximum)
  deriving DecidableEq

namespace RetryPool

instance : Inhabited RetryPool := ⟨.unlimited⟩

def full (maximum : Nat) : RetryPool := .limited maximum maximum (Nat.le_refl _)

/-- A policy limits the pool only if retries are to be throttled. -/
def ofPolicy (throttled : Bool) (p : CapacityPolicy) : RetryPool :=
  if throttled then full p.total else .unlimited

/-- Takes the cost, if there is that much. -/
def acquire (cost : Nat) : RetryPool → Bool × RetryPool
  | .unlimited => (true, .unlimited)
  | .limited maximum available within =>
    if available < cost then (false, .limited maximum available within)
    else (true, .limited maximum (available - cost) (Nat.le_trans (Nat.sub_le _ _) within))

/-- Gives capacity back; what exceeds the maximum is lost. -/
def release (count : Nat) : RetryPool → RetryPool
  | .unlimited => .unlimited
  | .limited maximum available _ =>
    .limited maximum (min (available + count) maximum) (Nat.min_le_right _ _)

def available? : RetryPool → Option Nat
  | .unlimited => none
  | .limited _ available _ => some available

def consumed? : RetryPool → Option Nat
  | .unlimited => none
  | .limited maximum available _ => some (maximum - available)

def inspect (p : RetryPool) : String :=
  let (maximum, held) := match p with
    | .unlimited => (none, 0)
    | .limited maximum available _ => (some maximum, available)
  Inspect.record "RetryCapacity" [
    ("max_capacity", Inspect.option (fun n : Nat => s!"{n}") maximum),
    ("available", s!"Mutex \x7b data: {held}, poisoned: false, .. \x7d")]

end RetryPool

end ServiceCall
