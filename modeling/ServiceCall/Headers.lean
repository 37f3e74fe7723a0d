import ServiceCall.Table
import ServiceCall.Text.Utf8

/-!
Header fields: a multimap from lower-case names to values in the order in which they came.
-/

namespace ServiceCall

structure HeaderValue where
  bytes : Bytes
  deriving DecidableEq

namespace HeaderValue

instance : Inhabited HeaderValue := ⟨⟨[]⟩⟩

/-- A tab, or any byte from the blank on that is not the delete character. -/
def accepts (b : UInt8) : Bool := (0x20 ≤ b && b ≠ 0x7F) || b = 0x09

def ofString? (text : String) : Option HeaderValue :=
  let bytes := Bytes.ofString text
  if bytes.all accepts then some ⟨bytes⟩ else none

/-- The value as text, if it holds visible ASCII, blanks and tabs only. -/
def text? (v : HeaderValue) : Option String :=
  if v.bytes.all (fun b => (0x20 ≤ b && b < 0x7F) || b = 0x09) then
    some (String.ofList (v.bytes.map fun b => Char.ofNat b.toNat))
  else none

end HeaderValue

namespace HeaderName

def isTokenChar (c : Char) : Bool :=
  c.isAlphanum || "!#$%&'*+-.^_\x60|~".toList.contains c

/-- The name in lower case, if it is a token of at most 65535 characters. -/
def ofString? (text : String) : Option String :=
  let cs := text.toList
  if cs.isEmpty || 65535 < cs.length then none
  else if cs.all isTokenChar then some (String.ofList (cs.map Char.toLower))
  else none

end HeaderName

structure Headers where
  fields : Table String (List HeaderValue) := {}

namespace Headers

instance : Inhabited Headers := ⟨{}⟩

def getAll (h : Headers) (name : String) : List HeaderValue := (h.fields.find? name).getD []

def get? (h : Headers) (name : String) : Option HeaderValue := (h.getAll name).head?

def contains (h : Headers) (name : String) : Bool := !(h.getAll name).isEmpty

/-- The first value under the name, if it can be read as text. -/
def text? (h : Headers) (name : String) : Option String := (h.get? name).bind HeaderValue.text?

/-- Replaces all values under the name. -/
def set (h : Headers) (name : String) (v : HeaderValue) : Headers := ⟨h.fields.insert name [v]⟩

def append (h : Headers) (name : String) (v : HeaderValue) : Headers :=
  ⟨h.fields.insert name (h.getAll name ++ [v])⟩

def remove (h : Headers) (name : String) : Headers := ⟨h.fields.erase name⟩

/-- The digits of a number of 64 bits, after a plus sign or none. -/
def count? (cs : List Char) : Option Nat :=
  let digits := if cs.head? = some '+' then cs.tail else cs
  if digits.isEmpty || !digits.all Char.isDigit then none
  else
    let n := digits.foldl (fun n c => 10 * n + (c.toNat - 48)) 0
    if n ≤ 18446744073709551615 then some n else none

/-- The length that the fields announce; a value that is no number announces none. -/
def contentLength? (h : Headers) : Option Nat :=
  (h.text? "content-length").bind fun text =>
    let blank := fun c => c = ' ' || c = '\t'
    count? ((text.toList.dropWhile blank).reverse.dropWhile blank).reverse

/-- How many values there are, under all names. -/
def size (h : Headers) : Nat := (h.fields.entries.map (·.2.length)).foldl (· + ·) 0

theorem getAll_set_self (h : Headers) (name : String) (v : HeaderValue) :
    (h.set name v).getAll name = [v] := by
  simp [getAll, set, Table.find?_insert_self]

end Headers

end ServiceCall
