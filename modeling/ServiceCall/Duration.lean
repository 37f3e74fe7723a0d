/-! Lengths of time in whole nanoseconds, and their text. -/

namespace ServiceCall

structure Duration where
  nanos : Nat
  deriving DecidableEq, Repr

namespace Duration

instance : Inhabited Duration := ⟨⟨0⟩⟩

instance : LE Duration := ⟨fun a b => a.nanos ≤ b.nanos⟩

instance : LT Duration := ⟨fun a b => a.nanos < b.nanos⟩

instance (a b : Duration) : Decidable (a ≤ b) := inferInstanceAs (Decidable (a.nanos ≤ b.nanos))

instance (a b : Duration) : Decidable (a < b) := inferInstanceAs (Decidable (a.nanos < b.nanos))

instance : Min Duration := ⟨fun a b => if a ≤ b then a else b⟩

instance : Max Duration := ⟨fun a b => if a ≤ b then b else a⟩

def zero : Duration := ⟨0⟩

def ofNanos (n : Nat) : Duration := ⟨n⟩

def ofMillis (n : Nat) : Duration := ⟨n * 1000000⟩

def ofSecs (n : Nat) : Duration := ⟨n * 1000000000⟩

/-- Whole milliseconds; a part of one is dropped. -/
def millis (d : Duration) : Nat := d.nanos / 1000000

def secs (d : Duration) : Nat := d.nanos / 1000000000

def subsecNanos (d : Duration) : Nat := d.nanos % 1000000000

/-- Time left when `used` has gone by. -/
def minus (d used : Duration) : Duration := ⟨d.nanos - used.nanos⟩

/-- The digits of `n` padded to `width`, without zeros at the end. -/
def fraction (width n : Nat) : List Char :=
  let digits := Nat.toDigits 10 n
  let padded := List.replicate (width - digits.length) '0' ++ digits
  (padded.reverse.dropWhile (· = '0')).reverse

def scaled (whole part width : Nat) (unit : String) : String :=
  if part = 0 then s!"{whole}{unit}"
  else s!"{whole}.{String.ofList (fraction width part)}{unit}"

/-- The largest of the units s, ms, µs and ns that is not above the length, with as many
decimals as are not zero. -/
def inspect (d : Duration) : String :=
  let n := d.nanos
  if 1000000000 ≤ n then scaled (n / 1000000000) (n % 1000000000) 9 "s"
  else if 1000000 ≤ n then scaled (n / 1000000) (n % 1000000) 6 "ms"
  else if 1000 ≤ n then scaled (n / 1000) (n % 1000) 3 "µs"
  else s!"{n}ns"

end Duration

end ServiceCall
