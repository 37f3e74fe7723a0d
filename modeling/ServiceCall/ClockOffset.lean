import ServiceCall.Headers
import ServiceCall.Moment.CompactDate
import ServiceCall.Moment.HttpDate

/-!
How many seconds the local clock runs ahead of the clock of a service. The time of the service
is taken from the `date` header field or, where there is none, from the text of a failure.
-/

namespace ServiceCall.ClockOffset

def minSeconds : Int := -2147483648

def maxSeconds : Int := 2147483647

def clamp (n : Int) : Int := max minSeconds (min maxSeconds n)

/-- The nearest whole second; a half goes away from zero. -/
def roundMillis (n : Int) : Int :=
  if 0 ≤ n then (n + 500).tdiv 1000 else (n - 500).tdiv 1000

/-- Whole milliseconds since the start of 1970, truncated toward it. -/
def millisOfNanos (n : Int) : Int := n.tdiv 1000000

/-- What precedes the first occurrence of a text. -/
def before? (needle : List Char) : List Char → Option (List Char)
  | [] => if needle.isEmpty then some [] else none
  | c :: rest =>
    if needle.isPrefixOf (c :: rest) then some []
    else (before? needle rest).map (c :: ·)

/-- The text after the first parenthesis, or from the start, up to the first ` + ` or, where
there is none, ` - `. -/
def dateInMessage? (message : List Char) : Option (List Char) :=
  let start := if message.contains '(' then (message.takeWhile (· ≠ '(')).length + 1 else 0
  match before? " + ".toList message <|> before? " - ".toList message with
  | some head => if start ≤ head.length then some (head.drop start) else none
  | none => none

/-- Milliseconds since the start of 1970 by the clock of the service. The header field alone
decides if there is one. -/
def serverMillis? (headers : Headers) (message : String) : Option Int :=
  match headers.get? "date" with
  | some value => ((value.text?).bind HttpDate.seconds?).map (· * 1000)
  | none => ((dateInMessage? message.toList).bind CompactDate.seconds?).map (· * 1000)

/-- The offset, where `now` is in nanoseconds since the start of 1970. -/
def compute? (headers : Headers) (message : String) (now : Int) : Option Int :=
  (serverMillis? headers message).map fun server => clamp (roundMillis (millisOfNanos now - server))

/-- The offset after a failure of the clock and the correction that was found; without one the
offset stays and the correction is 0. -/
def correct (offset : Int) (headers : Headers) (message : String) (now : Int) : Int × Int :=
  match compute? headers message now with
  | some found => (found, found)
  | none => (offset, 0)

end ServiceCall.ClockOffset
