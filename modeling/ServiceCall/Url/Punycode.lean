/-!
Punycode: a label with characters beyond ASCII written in ASCII. Characters are numbered by
their code points, sorted, and written as differences in a numeral system whose thresholds
adapt to the numbers written so far.
-/

namespace ServiceCall.Punycode

def digitChar (d : Nat) : Char := if d < 26 then Char.ofNat (97 + d) else Char.ofNat (22 + d)

def digitValue? (c : Char) : Option Nat :=
  if 'a' ≤ c ∧ c ≤ 'z' then some (c.toNat - 97)
  else if 'A' ≤ c ∧ c ≤ 'Z' then some (c.toNat - 65)
  else if '0' ≤ c ∧ c ≤ '9' then some (c.toNat - 22)
  else none

/-- The value from which on a digit at `place` (a multiple of 36) is not the last one. -/
def threshold (place bias : Nat) : Nat := min 26 (max 1 (place - bias))

def shrink (delta place : Nat) : Nat × Nat :=
  if 455 < delta then shrink (delta / 35) (place + 36) else (delta, place)
termination_by delta
decreasing_by exact Nat.div_lt_self (by omega) (by omega)

def adapt (delta written : Nat) (first : Bool) : Nat :=
  let delta := if first then delta / 700 else delta / 2
  let (delta, place) := shrink (delta + delta / written) 0
  place + 36 * delta / (delta + 38)

theorem threshold_bounds (place bias : Nat) :
    1 ≤ threshold place bias ∧ threshold place bias ≤ 26 := by
  simp only [threshold]
  omega

def digits (bias place q : Nat) : List Char :=
  let t := threshold place bias
  if q < t then [digitChar q]
  else digitChar (t + (q - t) % (36 - t)) :: digits bias (place + 36) ((q - t) / (36 - t))
termination_by q
decreasing_by
  have h := threshold_bounds place bias
  have hq : q - threshold place bias < q := by omega
  exact Nat.lt_of_le_of_lt (Nat.div_le_self _ _) hq

structure Encoder where
  out : List Char
  delta : Nat
  bias : Nat
  written : Nat
  first : Bool

/-- Passes over one character while those with number `n` are being written. -/
def Encoder.visit (n : Nat) (e : Encoder) (c : Char) : Encoder :=
  if c.toNat < n then { e with delta := e.delta + 1 }
  else if c.toNat = n then
    { out := e.out ++ digits e.bias 36 e.delta
      delta := 0
      bias := adapt e.delta (e.written + 1) e.first
      written := e.written + 1
      first := false }
  else e

def encodeNumbers (label : List Char) : List Nat → Nat → Encoder → Encoder
  | [], _, e => e
  | n :: rest, previous, e =>
    let e := { e with delta := e.delta + (n - previous) * (e.written + 1) }
    let e := label.foldl (Encoder.visit n) e
    encodeNumbers label rest (n + 1) { e with delta := e.delta + 1 }

def encode (label : List Char) : List Char :=
  let basic := label.filter (·.toNat < 128)
  let numbers := ((label.filter (128 ≤ ·.toNat)).map Char.toNat).eraseDups.mergeSort
  let start : Encoder := ⟨[], 0, 72, basic.length, true⟩
  basic ++ (if basic.isEmpty then [] else ['-']) ++ (encodeNumbers label numbers 128 start).out

/-! ### Reading -/

/-- Numbers that take more bits are refused. -/
def fits (n : Nat) : Bool := n < Nat.pow 2 32

/-- Reads one number, least digit first, and what follows it. -/
def readNumber (bias : Nat) : Nat → Nat → Nat → List Char → Option (Nat × List Char)
  | _, _, _, [] => none
  | place, weight, total, c :: rest =>
    match digitValue? c with
    | none => none
    | some d =>
      let t := threshold place bias
      let total := total + d * weight
      if !fits total then none
      else if d < t then some (total, rest)
      else if !fits (weight * (36 - t)) then none
      else readNumber bias (place + 36) (weight * (36 - t)) total rest

/-- Inserts the characters that the numbers stand for; the first argument bounds their count. -/
def decodeNumbers : Nat → List Char → List Char → Nat → Nat → Nat → Bool → Option (List Char)
  | 0, _, _, _, _, _, _ => none
  | _ + 1, [], out, _, _, _, _ => some out
  | fuel + 1, text, out, n, i, bias, first =>
    match readNumber bias 36 1 i text with
    | none => none
    | some (j, rest) =>
      let size := out.length + 1
      let n := n + j / size
      let at_ := j % size
      if !n.isValidChar then none
      else
        let out := out.take at_ ++ [Char.ofNat n] ++ out.drop at_
        decodeNumbers fuel rest out n (at_ + 1) (adapt (j - i) size first) false

/-- What precedes the last hyphen stands for itself; a hyphen that nothing precedes does not. -/
def decode? (text : List Char) : Option (List Char) :=
  let reversed := text.reverse
  let tail := (reversed.takeWhile (· ≠ '-')).reverse
  let basic := ((reversed.dropWhile (· ≠ '-')).drop 1).reverse
  if basic.isEmpty && text.contains '-' then none
  else decodeNumbers (tail.length + 1) tail basic 128 0 72 true

end ServiceCall.Punycode
