import ServiceCall.Json.Tree

/-!
JSON documents. Reading one is stricter than its grammar: strings have to be valid text, numbers
have to be in range, and nesting is limited. Of equal keys in an object the last one counts.
-/

namespace ServiceCall

inductive JsonNumber where
  | natural (n : Nat)
  | negative (n : Int)
  | decimal (x : Float)

inductive Json where
  | null
  | bool (b : Bool)
  | number (n : JsonNumber)
  | string (s : String)
  | array (items : List Json)
  | object (members : List (String × Json))

namespace Json

instance : Inhabited Json := ⟨.null⟩

/-! ### Strings -/

def hexValue (h₁ h₂ h₃ h₄ : UInt8) : Nat :=
  [h₁, h₂, h₃, h₄].foldl (fun n h => n * 16 + (Hex.value? (Char.ofNat h.toNat)).getD 0) 0

def shortEscape (e : UInt8) : UInt8 :=
  if e = 0x62 then 0x08
  else if e = 0x66 then 0x0C
  else if e = 0x6E then 0x0A
  else if e = 0x72 then 0x0D
  else if e = 0x74 then 0x09
  else e

/-- Resolves the escapes; a surrogate has to be one of a pair. The first half of a pair waits as
an argument for the second one. -/
def unescape : Option Nat → Bytes → Option Bytes
  | none, [] => some []
  | some _, [] => none
  | pending, b :: rest =>
    if b = 0x5C then
      match rest with
      | [] => none
      | e :: rest =>
        if e = 0x75 then
          match rest with
          | h₁ :: h₂ :: h₃ :: h₄ :: rest =>
            let n := hexValue h₁ h₂ h₃ h₄
            match pending with
            | some high =>
              if 0xDC00 ≤ n ∧ n ≤ 0xDFFF then
                let c := Char.ofNat (0x10000 + (high - 0xD800) * 0x400 + (n - 0xDC00))
                (unescape none rest).map (String.utf8EncodeChar c ++ ·)
              else none
            | none =>
              if 0xDC00 ≤ n ∧ n ≤ 0xDFFF then none
              else if 0xD800 ≤ n ∧ n ≤ 0xDBFF then unescape (some n) rest
              else (unescape none rest).map (String.utf8EncodeChar (Char.ofNat n) ++ ·)
          | _ => none
        else
          match pending with
          | some _ => none
          | none => (unescape none rest).map (shortEscape e :: ·)
    else
      match pending with
      | some _ => none
      | none => (unescape none rest).map (b :: ·)

def readString? (raw : Bytes) : Option String := (unescape none raw).bind Bytes.toString?

/-! ### Numbers -/

def maxNatural : Nat := 18446744073709551615

def digitsValue (digits : List Char) : Nat :=
  digits.foldl (fun n c => n * 10 + (c.toNat - 48)) 0

/-- The digits that fit into 64 bits, as a number, and how many digits are left over. -/
def leading : Nat → List Char → Nat × Nat
  | n, [] => (n, 0)
  | n, c :: rest =>
    let m := n * 10 + (c.toNat - 48)
    if maxNatural < m then (n, rest.length + 1) else leading m rest

def powerOfTen (k : Nat) : Float := Float.ofScientific 1 false k

/-- Divides by powers of ten of at most 308 at a time. -/
def scaleDown : Nat → Float → Nat → Float
  | 0, x, k => x / powerOfTen k
  | steps + 1, x, k =>
    if k ≤ 308 then x / powerOfTen k
    else if x == 0.0 then x
    else scaleDown steps (x / powerOfTen 308) (k - 308)

/-- `significand · 10 ^ exponent`, rounded once for the significand and once for each power. -/
def scaleDecimal? (significand : Nat) (exponent : Int) : Option Float :=
  let x := significand.toUInt64.toFloat
  if 0 ≤ exponent then
    if 308 < exponent then if x == 0.0 then some x else none
    else
      let y := x * powerOfTen exponent.toNat
      if y.isInf then none else some y
  else some (scaleDown 8 x (-exponent).toNat)

/-- The written exponent, at most a bound beyond which it makes no difference. -/
def readExponent (text : List Char) : Int :=
  match text with
  | '+' :: digits => min 2147483647 (digitsValue digits)
  | '-' :: digits => -(min 2147483647 (digitsValue digits))
  | digits => min 2147483647 (digitsValue digits)

def readUnsigned? (text : List Char) : Option (Nat ⊕ Float) :=
  let integer := text.takeWhile Char.isDigit
  let rest := text.dropWhile Char.isDigit
  let (significand, skipped) := leading 0 integer
  match rest with
  | [] =>
    if skipped = 0 then some (.inl significand)
    else (scaleDecimal? significand skipped).map .inr
  | '.' :: rest =>
    let fraction := rest.takeWhile Char.isDigit
    let (significand, unread) := leading significand fraction
    let exponent : Int := skipped - (fraction.length - unread : Nat)
    match rest.dropWhile Char.isDigit with
    | [] => (scaleDecimal? significand exponent).map .inr
    | _ :: power => (scaleDecimal? significand (exponent + readExponent power)).map .inr
  | _ :: power => (scaleDecimal? significand (skipped + readExponent power)).map .inr

/-- Whole numbers of 64 bits are kept exactly, all others as floating point numbers. -/
def readNumber? : List Char → Option JsonNumber
  | '-' :: text =>
    match readUnsigned? text with
    | none => none
    | some (.inl n) =>
      if n = 0 || 9223372036854775808 < n then some (.decimal (-(n.toUInt64.toFloat)))
      else some (.negative (-(n : Int)))
    | some (.inr x) => some (.decimal (-x))
  | text =>
    match readUnsigned? text with
    | none => none
    | some (.inl n) => some (.natural n)
    | some (.inr x) => some (.decimal x)

/-! ### Documents -/

def maxDepth : Nat := 127

mutual

/-- Reads a tree that is nested to at most the given depth. -/
def ofTree? (depth : Nat) : Tree → Option Json
  | .null => some .null
  | .bool b => some (.bool b)
  | .number text => (readNumber? text).map .number
  | .string raw => (readString? raw).map .string
  | .array items => if depth = 0 then none else (ofItems? (depth - 1) items).map .array
  | .object members => if depth = 0 then none else (ofMembers? (depth - 1) members).map .object

def ofItems? (depth : Nat) : List Tree → Option (List Json)
  | [] => some []
  | t :: rest =>
    match ofTree? depth t with
    | none => none
    | some j => (ofItems? depth rest).map (j :: ·)

def ofMembers? (depth : Nat) : List (Bytes × Tree) → Option (List (String × Json))
  | [] => some []
  | (key, t) :: rest =>
    match readString? key, ofTree? depth t with
    | some key, some j => (ofMembers? depth rest).map ((key, j) :: ·)
    | _, _ => none

end

def ofBytes? (bytes : Bytes) : Option Json := (Tree.ofBytes? bytes).bind (ofTree? maxDepth)

def string? : Json → Option String
  | .string s => some s
  | _ => none

/-- The value under a key of an object. -/
def get? : Json → String → Option Json
  | .object members, key => members.reverse.lookup key
  | _, _ => none

end Json

end ServiceCall
