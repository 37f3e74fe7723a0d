import ServiceCall.Json

/-!
Text of JSON documents. A number that is not whole by type is written with all its decimals and
at least one, so that reading it gives the same number.
-/

namespace ServiceCall.Json

/-! ### Strings -/

def escapedChar (c : Char) : List Char :=
  if c = '"' then ['\\', '"']
  else if c = '\\' then ['\\', '\\']
  else if c.toNat < 0x20 then
    ['\\', 'u', '0', '0', Hex.digit (c.toNat / 16), Hex.digit (c.toNat % 16)]
  else [c]

def quote (s : String) : String := String.ofList ('"' :: s.toList.flatMap escapedChar ++ ['"'])

/-! ### Numbers -/

/-- The digits of `n`, with zeros in front up to the width. -/
def padded (width n : Nat) : List Char :=
  let digits := Nat.toDigits 10 n
  List.replicate (width - digits.length) '0' ++ digits

/-- A natural number divided by a power of ten. -/
def decimalText (n places : Nat) : String :=
  let fraction := ((padded places (n % Nat.pow 10 places)).reverse.dropWhile (· = '0')).reverse
  let fraction := if fraction.isEmpty then ['0'] else fraction
  s!"{n / Nat.pow 10 places}.{String.ofList fraction}"

/-- A finite number of 64 bits: significand times a power of two, both read off its bits. -/
def floatText (x : Float) : String :=
  let bits := x.toBits.toNat
  let lead := if bits / Nat.pow 2 63 = 1 then "-" else ""
  let biased := bits / Nat.pow 2 52 % 2048
  let fraction := bits % Nat.pow 2 52
  let (significand, exponent) :=
    if biased = 0 then (fraction, 1) else (fraction + Nat.pow 2 52, biased)
  let places := 1075 - exponent
  lead ++ decimalText (significand * Nat.pow 2 (exponent - 1075) * Nat.pow 5 places) places

def numberText : JsonNumber → String
  | .natural n => s!"{n}"
  | .negative n => s!"{n}"
  | .decimal x => floatText x

/-! ### Documents -/

def memberText (key text : String) : String := quote key ++ ":" ++ text

mutual

def text : Json → String
  | .null => "null"
  | .bool b => if b then "true" else "false"
  | .number n => numberText n
  | .string s => quote s
  | .array items => "[" ++ ",".intercalate (itemTexts items) ++ "]"
  | .object members => "\x7b" ++ ",".intercalate (memberTexts members) ++ "\x7d"

def itemTexts : List Json → List String
  | [] => []
  | j :: rest => text j :: itemTexts rest

def memberTexts : List (String × Json) → List String
  | [] => []
  | (key, j) :: rest => memberText key (text j) :: memberTexts rest

end

end ServiceCall.Json
