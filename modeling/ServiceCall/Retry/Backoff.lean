import ServiceCall.Duration
import ServiceCall.Retry.Capacity

/-!
Pauses before retries. The longest pause doubles with every attempt up to a cap, and a pause is
drawn from all whole milliseconds up to the longest one.
-/

namespace ServiceCall

namespace Backoff

/-- The longest pause after so many attempts, for a base and a cap. Only the whole milliseconds
of the base count, as a number of 64 bits. -/
def ceiling (attempts : Nat) (base cap : Duration) : Duration :=
  if attempts = 0 then .zero
  else
    let millis := base.millis % (maxCount + 1)
    min (Duration.ofMillis (min (millis * Nat.pow 2 (min (attempts - 1) 30)) maxCount)) cap

/-- The pause that a random number chooses. -/
def drawn (attempts : Nat) (base cap : Duration) (random : Nat) : Duration :=
  .ofMillis (random % ((ceiling attempts base cap).millis + 1))

end Backoff

/-- A backoff whose cap is not below its base. -/
structure FullJitter where
  base : Duration
  cap : Duration
  base_le : base ≤ cap

namespace FullJitter

def of (base cap : Duration) : FullJitter where
  base := base
  cap := max cap base
  base_le := by
    show base.nanos ≤ (max cap base).nanos
    simp only [max]
    split
    · exact Nat.le_refl _
    · rename_i h
      exact Nat.le_of_lt (Nat.lt_of_not_le h)

def standard : FullJitter := of (.ofMillis 100) (.ofSecs 20)

def lowLatency : FullJitter := of (.ofMillis 25) (.ofSecs 20)

def ceiling (j : FullJitter) (attempts : Nat) : Duration :=
  Backoff.ceiling attempts j.base j.cap

def drawn (j : FullJitter) (attempts random : Nat) : Duration :=
  Backoff.drawn attempts j.base j.cap random

end FullJitter

end ServiceCall
