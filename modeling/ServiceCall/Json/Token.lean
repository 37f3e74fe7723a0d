import ServiceCall.Text.Percent

/-! Tokens of JSON texts. Strings and numbers are kept as they are written. -/

namespace ServiceCall.Json

inductive Token where
  | openObject | closeObject | openArray | closeArray | colon | comma
  | null
  | bool (b : Bool)
  | number (text : List Char)
  | string (raw : Bytes)

namespace Token

def isBlank (b : UInt8) : Bool := b = 0x20 || b = 0x09 || b = 0x0A || b = 0x0D

def isDigit (b : UInt8) : Bool := 0x30 ≤ b && b ≤ 0x39

def isHex (b : UInt8) : Bool := Hex.isDigit (Char.ofNat b.toNat)

/-- Letters that may follow a backslash, other than `u`. -/
def isShortEscape (b : UInt8) : Bool := "\"\\/bfnrt".toList.contains (Char.ofNat b.toNat)

/-- What a string holds up to its closing quote, and what follows the quote. -/
def scanString : Bytes → Option (Bytes × Bytes)
  | [] => none
  | b :: rest =>
    if b = 0x22 then some ([], rest)
    else if b = 0x5C then
      match rest with
      | [] => none
      | e :: rest =>
        if e = 0x75 then
          match rest with
          | h₁ :: h₂ :: h₃ :: h₄ :: rest =>
            if isHex h₁ && isHex h₂ && isHex h₃ && isHex h₄ then
              (scanString rest).map fun (raw, rest) =>
                (b :: e :: h₁ :: h₂ :: h₃ :: h₄ :: raw, rest)
            else none
          | _ => none
        else if isShortEscape e then
          (scanString rest).map fun (raw, rest) => (b :: e :: raw, rest)
        else none
    else if b < 0x20 then none
    else (scanString rest).map fun (raw, rest) => (b :: raw, rest)

/-- A part of a number and what follows it. -/
abbrev Part := Option (Bytes × Bytes)

def scanDigits (bytes : Bytes) : Part :=
  match bytes.takeWhile isDigit with
  | [] => none
  | digits => some (digits, bytes.dropWhile isDigit)

def scanInteger : Bytes → Part
  | [] => none
  | b :: rest => if b = 0x30 then some ([b], rest) else scanDigits (b :: rest)

def scanFraction : Bytes → Part
  | [] => some ([], [])
  | b :: rest =>
    if b = 0x2E then (scanDigits rest).map fun (digits, rest) => (b :: digits, rest)
    else some ([], b :: rest)

def scanExponent : Bytes → Part
  | [] => some ([], [])
  | b :: rest =>
    if b = 0x65 || b = 0x45 then
      match rest with
      | [] => none
      | s :: rest' =>
        if s = 0x2B || s = 0x2D then
          (scanDigits rest').map fun (digits, rest) => (b :: s :: digits, rest)
        else (scanDigits rest).map fun (digits, rest) => (b :: digits, rest)
    else some ([], b :: rest)

def scanUnsigned (bytes : Bytes) : Part := do
  let (integer, rest) ← scanInteger bytes
  let (fraction, rest) ← scanFraction rest
  let (exponent, rest) ← scanExponent rest
  some (integer ++ fraction ++ exponent, rest)

def asciiText (bytes : Bytes) : List Char := bytes.map fun b => Char.ofNat b.toNat

/-- The rest of the input after a word. -/
def dropWord? (word : String) (bytes : Bytes) : Option Bytes :=
  let word := Bytes.ofString word
  if bytes.take word.length = word then some (bytes.drop word.length) else none

/-- The token at the head of a text that does not start with a blank. -/
def next? : Bytes → Option (Token × Bytes)
  | [] => none
  | b :: rest =>
    if b = 0x7B then some (.openObject, rest)
    else if b = 0x7D then some (.closeObject, rest)
    else if b = 0x5B then some (.openArray, rest)
    else if b = 0x5D then some (.closeArray, rest)
    else if b = 0x3A then some (.colon, rest)
    else if b = 0x2C then some (.comma, rest)
    else if b = 0x22 then (scanString rest).map fun (raw, rest) => (.string raw, rest)
    else if b = 0x2D then
      (scanUnsigned rest).map fun (text, rest) => (.number ('-' :: asciiText text), rest)
    else if isDigit b then
      (scanUnsigned (b :: rest)).map fun (text, rest) => (.number (asciiText text), rest)
    else if b = 0x6E then (dropWord? "ull" rest).map (.null, ·)
    else if b = 0x74 then (dropWord? "rue" rest).map (.bool true, ·)
    else if b = 0x66 then (dropWord? "alse" rest).map (.bool false, ·)
    else none

/-- At most as many tokens as there are bytes. -/
def scan : Nat → Bytes → Option (List Token)
  | 0, _ => some []
  | fuel + 1, bytes =>
    match bytes.dropWhile isBlank with
    | [] => some []
    | b :: rest =>
      match next? (b :: rest) with
      | none => none
      | some (token, rest) => (scan fuel rest).map (token :: ·)

def ofBytes? (bytes : Bytes) : Option (List Token) := scan bytes.length bytes

end Token

end ServiceCall.Json
