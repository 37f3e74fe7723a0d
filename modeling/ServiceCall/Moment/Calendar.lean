/-! Dates of the Gregorian calendar and the seconds since the start of 1970. -/

namespace ServiceCall.Calendar

structure Date where
  year : Int
  month : Nat
  day : Nat
  deriving DecidableEq, Repr

structure Time where
  hour : Nat
  minute : Nat
  second : Nat
  deriving DecidableEq, Repr

def isLeap (year : Int) : Bool := year % 4 = 0 && (year % 100 ≠ 0 || year % 400 = 0)

def monthLengths (year : Int) : List Nat :=
  [31, if isLeap year then 29 else 28, 31, 30, 31, 30, 31, 31, 30, 31, 30, 31]

def Date.isValid (d : Date) : Bool :=
  match (monthLengths d.year)[d.month - 1]? with
  | some length => 1 ≤ d.month && 1 ≤ d.day && d.day ≤ length
  | none => false

/-- Days from the first day of year 1 to the first day of a year. -/
def daysBeforeYear (year : Int) : Int :=
  let y := year - 1
  365 * y + y.fdiv 4 - y.fdiv 100 + y.fdiv 400

/-- Days since the first day of 1970. -/
def Date.dayNumber (d : Date) : Int :=
  daysBeforeYear d.year - daysBeforeYear 1970
    + (((monthLengths d.year).take (d.month - 1)).foldl (· + ·) 0 : Nat) + (d.day - 1 : Nat)

/-- Days since Monday. -/
def Date.weekday (d : Date) : Nat := ((d.dayNumber + 3) % 7).toNat

/-- Seconds since the start of 1970. -/
def seconds (d : Date) (t : Time) : Int :=
  d.dayNumber * 86400 + (t.hour * 3600 + t.minute * 60 + t.second : Nat)

def monthNames : List String :=
  ["Jan", "Feb", "Mar", "Apr", "May", "Jun", "Jul", "Aug", "Sep", "Oct", "Nov", "Dec"]

def weekdayNames : List String :=
  ["Monday", "Tuesday", "Wednesday", "Thursday", "Friday", "Saturday", "Sunday"]

end ServiceCall.Calendar
