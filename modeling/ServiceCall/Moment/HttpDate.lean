import ServiceCall.Moment.Calendar

/-!
Dates of HTTP header fields in their three forms:
`Sun, 06 Nov 1994 08:49:37 GMT`, `Sunday, 06-Nov-94 08:49:37 GMT` and `Sun Nov  6 08:49:37 1994`.
-/

namespace ServiceCall.HttpDate

open Calendar

/-- A reading whose parts have not been checked against each other; `weekday` counts from
Monday. -/
structure Reading where
  date : Date
  time : Time
  weekday : Nat

def number? (cs : List Char) : Option Nat :=
  if !cs.isEmpty && cs.all Char.isDigit then
    some (cs.foldl (fun n c => n * 10 + (c.toNat - 48)) 0)
  else none

def indexOf? (names : List (List Char)) (cs : List Char) : Option Nat := names.findIdx? (· = cs)

def monthIn? (before after : Char) (cs : List Char) : Option Nat :=
  (indexOf? (monthNames.map fun name => before :: name.toList ++ [after]) cs).map (· + 1)

/-- A clock reading `08:49:37`. -/
def time? (cs : List Char) : Option Time :=
  match cs with
  | [h₁, h₂, ':', m₁, m₂, ':', s₁, s₂] => do
    let hour ← number? [h₁, h₂]
    let minute ← number? [m₁, m₂]
    let second ← number? [s₁, s₂]
    some ⟨hour, minute, second⟩
  | _ => none

def slice (cs : List Char) (start stop : Nat) : List Char := (cs.drop start).take (stop - start)

def fixed? (cs : List Char) : Option Reading := do
  guard (cs.length = 29 ∧ slice cs 25 29 = " GMT".toList ∧ slice cs 16 17 = [' '])
  let time ← time? (slice cs 17 25)
  let day ← number? (slice cs 5 7)
  let month ← (indexOf? (monthNames.map fun name => ' ' :: name.toList ++ [' ']) (slice cs 7 12))
  let year ← number? (slice cs 12 16)
  let weekday ← indexOf? (weekdayNames.map fun name => name.toList.take 3 ++ [',', ' '])
    (slice cs 0 5)
  some ⟨⟨year, month + 1, day⟩, time, weekday⟩

/-- Years from 70 on are of the last century; what stands between year and time is not looked
at. -/
def longForm? (cs : List Char) : Option Reading := do
  guard (23 ≤ cs.length)
  let weekday ← weekdayNames.findIdx? fun name =>
    (name.toList ++ [',', ' ']).isPrefixOf cs
  let name ← weekdayNames[weekday]?
  let rest := cs.drop (name.length + 2)
  guard (rest.length = 22 ∧ slice rest 18 22 = " GMT".toList)
  let time ← time? (slice rest 10 18)
  let day ← number? (slice rest 0 2)
  let month ← monthIn? '-' '-' (slice rest 2 7)
  let year ← number? (slice rest 7 9)
  some ⟨⟨if year < 70 then year + 2000 else year + 1900, month, day⟩, time, weekday⟩

def bareForm? (cs : List Char) : Option Reading := do
  guard (cs.length = 24 ∧ slice cs 10 11 = [' '] ∧ slice cs 19 20 = [' '])
  let time ← time? (slice cs 11 19)
  let day ← match slice cs 8 10 with
    | [' ', d] => number? [d]
    | ds => number? ds
  let month ← indexOf? (monthNames.map fun name => name.toList ++ [' ']) (slice cs 4 8)
  let year ← number? (slice cs 20 24)
  let weekday ← indexOf? (weekdayNames.map fun name => name.toList.take 3 ++ [' ']) (slice cs 0 4)
  some ⟨⟨year, month + 1, day⟩, time, weekday⟩

/-- A date of the calendar from 1970 on, with its own day of the week and a time of a day. -/
def Reading.isValid (r : Reading) : Bool :=
  r.time.hour < 24 && r.time.minute < 60 && r.time.second < 60 && 1970 ≤ r.date.year
    && r.date.isValid && r.date.weekday = r.weekday

def isBlank (c : Char) : Bool := c = ' ' || (9 ≤ c.toNat && c.toNat ≤ 13)

def trimmed (cs : List Char) : List Char :=
  ((cs.dropWhile isBlank).reverse.dropWhile isBlank).reverse

/-- Seconds since the start of 1970. -/
def seconds? (text : String) : Option Int :=
  let cs := trimmed text.toList
  if cs.any (128 ≤ ·.toNat) then none
  else
    match (fixed? cs <|> longForm? cs <|> bareForm? cs) with
    | some r => if r.isValid then some (Calendar.seconds r.date r.time) else none
    | none => none

end ServiceCall.HttpDate
