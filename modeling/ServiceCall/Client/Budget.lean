import ServiceCall.Duration

/-! The time that a call may take, measured from its start. -/

namespace ServiceCall

structure CallBudget where
  attemptLimit : Option Duration := none
  callLimit : Option Duration := none
  /-- Reading of the clock at the start of the call. -/
  startedAt : Nat

namespace CallBudget

def elapsed (b : CallBudget) (now : Nat) : Duration := ⟨now - b.startedAt⟩

/-- Time left; a call without limit has no such time. -/
def remaining? (b : CallBudget) (now : Nat) : Option Duration :=
  b.callLimit.map fun limit => limit.minus (b.elapsed now)

def isOver (b : CallBudget) (now : Nat) : Bool := (b.remaining? now).any (· = .zero)

/-- How long one exchange may take: as long as an attempt may, but not longer than the call may
still go on. There is no answer once the time of the call is up. -/
def exchangeLimit? (b : CallBudget) (now : Nat) : Option (Option Duration) :=
  match b.callLimit with
  | none => some b.attemptLimit
  | some limit =>
    if limit ≤ b.elapsed now then none
    else
      let left := limit.minus (b.elapsed now)
      some (some (match b.attemptLimit with
        | some d => min d left
        | none => left))

/-- How long to wait for `delay`, and whether that is up to the end of the call. -/
def wait (b : CallBudget) (now : Nat) (delay : Duration) : Duration × Bool :=
  match b.remaining? now with
  | some left => if left ≤ delay then (left, true) else (delay, false)
  | none => (delay, false)

end CallBudget

/-! ### Counts -/

/-- How often a call may go on after an attempt, by the reason for which it does. -/
structure CallLimits where
  redirects : Nat
  authRetries : Nat
  retries : Nat

/-- Attempts made so far, and the redirects and authentication retries among the reasons. -/
structure Tally where
  attempts : Nat := 0
  redirects : Nat := 0
  authRetries : Nat := 0
  deriving DecidableEq, Repr

namespace Tally

def redirected (t : Tally) : Tally :=
  { t with attempts := t.attempts + 1, redirects := t.redirects + 1 }

def authRetried (t : Tally) : Tally :=
  { t with attempts := t.attempts + 1, authRetries := t.authRetries + 1 }

def retried (t : Tally) : Tally := { t with attempts := t.attempts + 1 }

/-- At most how often the call still goes on. -/
def left (t : Tally) (l : CallLimits) : Nat :=
  (l.redirects - t.redirects) + (l.authRetries - t.authRetries) + (l.retries - t.attempts)

theorem left_redirected {t : Tally} {l : CallLimits} (h : t.redirects < l.redirects) :
    t.redirected.left l < t.left l := by
  simp only [left, redirected]
  omega

theorem left_authRetried {t : Tally} {l : CallLimits} (h : t.authRetries < l.authRetries) :
    t.authRetried.left l < t.left l := by
  simp only [left, authRetried]
  omega

theorem left_retried {t : Tally} {l : CallLimits} (h : t.attempts < l.retries) :
    t.retried.left l < t.left l := by
  simp only [left, retried]
  omega

end Tally

end ServiceCall
