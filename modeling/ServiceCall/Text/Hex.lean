import ServiceCall.Text.Utf8

/-! Hexadecimal digits and numerals. -/

namespace ServiceCall.Hex

def digit (n : Nat) : Char := if n < 10 then Char.ofNat (48 + n) else Char.ofNat (55 + n)

def lowerDigit (n : Nat) : Char := if n < 10 then Char.ofNat (48 + n) else Char.ofNat (87 + n)

def value? (c : Char) : Option Nat :=
  if '0' ≤ c ∧ c ≤ '9' then some (c.toNat - 48)
  else if 'a' ≤ c ∧ c ≤ 'f' then some (c.toNat - 87)
  else if 'A' ≤ c ∧ c ≤ 'F' then some (c.toNat - 55)
  else none

def isDigit (c : Char) : Bool := (value? c).isSome

/-- The shortest numeral of a number, in lower case. -/
def ofNat (n : Nat) : List Char := (Nat.toDigits 16 n)

/-- The number that a numeral stands for; what is no digit counts as zero. -/
def toNat (cs : List Char) : Nat := cs.foldl (fun n c => n * 16 + (value? c).getD 0) 0

def ofBytes (bytes : Bytes) : String :=
  String.ofList (bytes.flatMap fun b => [lowerDigit (b.toNat / 16), lowerDigit (b.toNat % 16)])

end ServiceCall.Hex
