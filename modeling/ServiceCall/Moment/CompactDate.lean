import ServiceCall.Moment.Calendar

/-!
Dates of the form `20130401T040113Z`. Blanks may stand before a number, a number may have fewer
digits than its place, and the year may have a sign and then any number of digits.
-/

namespace ServiceCall.CompactDate

open Calendar

/-- Characters that count as blanks in any script. -/
def isBlank (c : Char) : Bool :=
  let n := c.toNat
  (9 ≤ n && n ≤ 13) || n = 0x20 || n = 0x85 || n = 0xA0 || n = 0x1680
    || (0x2000 ≤ n && n ≤ 0x200A) || n = 0x2028 || n = 0x2029 || n = 0x202F || n = 0x205F
    || n = 0x3000

def digitsValue (digits : List Char) : Nat :=
  digits.foldl (fun n c => n * 10 + (c.toNat - 48)) 0

/-- A number of at least one digit and at most `width` digits. -/
def digits? (width : Nat) (cs : List Char) : Option (Nat × List Char) :=
  match (cs.take width).takeWhile Char.isDigit with
  | [] => none
  | digits => some (digitsValue digits, cs.drop digits.length)

def number? (width : Nat) (cs : List Char) : Option (Nat × List Char) :=
  digits? width (cs.dropWhile isBlank)

def year? (cs : List Char) : Option (Int × List Char) :=
  match cs.dropWhile isBlank with
  | '-' :: rest => (digits? rest.length rest).map fun (n, rest) => (-(n : Int), rest)
  | '+' :: rest => (digits? rest.length rest).map fun (n, rest) => ((n : Int), rest)
  | cs => (digits? 4 cs).map fun (n, rest) => ((n : Int), rest)

def letter? (c : Char) : List Char → Option (List Char)
  | d :: rest => if d = c then some rest else none
  | [] => none

/-- Years that can be told apart from an overflow. -/
def isYear (year : Int) : Bool := -262143 ≤ year && year ≤ 262142

def read? (cs : List Char) : Option (Date × Time) := do
  let (year, cs) ← year? cs
  let (month, cs) ← number? 2 cs
  let (day, cs) ← number? 2 cs
  let cs ← letter? 'T' cs
  let (hour, cs) ← number? 2 cs
  let (minute, cs) ← number? 2 cs
  let (second, cs) ← number? 2 cs
  let cs ← letter? 'Z' cs
  guard (cs.isEmpty)
  some (⟨year, month, day⟩, ⟨hour, minute, second⟩)

/-- Seconds since the start of 1970; a sixtieth second is the first one of the next minute. -/
def seconds? (text : List Char) : Option Int :=
  match read? text with
  | some (date, time) =>
    if isYear date.year && date.isValid && time.hour < 24 && time.minute < 60 && time.second ≤ 60
    then some (Calendar.seconds date time)
    else none
  | none => none

end ServiceCall.CompactDate
