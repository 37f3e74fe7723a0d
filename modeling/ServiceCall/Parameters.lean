import ServiceCall.Table
import ServiceCall.Text.Parts
import ServiceCall.Text.Percent

/-!
Parameters of a request, and their form encoding: pairs joined by `&`, name and value by `=`, a
blank written as `+`. A name without values is written alone; the reader gives it one empty
value.
-/

namespace ServiceCall

/-- Names in order, each with its values in the order in which they came. -/
abbrev Parameters := Table String (List String)

namespace Parameters

def add (p : Parameters) (name value : String) : Parameters :=
  p.alter name (fun values => values.getD [] ++ [value])

/-- Enters the name without a value. -/
def addName (p : Parameters) (name : String) : Parameters := p.insert name []

/-- The pairs that the encoding carries. -/
def pairs (p : Parameters) : List (String × String) :=
  p.entries.flatMap fun (name, values) =>
    if values.isEmpty then [(name, "")] else values.map (name, ·)

end Parameters

namespace Form

def isPlain (b : UInt8) : Bool :=
  let c := Char.ofNat b.toNat
  c.isAlphanum || c = '*' || c = '-' || c = '.' || c = '_'

def encodeByte (b : UInt8) : List Char :=
  if b = 0x20 then ['+'] else if isPlain b then [Char.ofNat b.toNat] else Percent.byte b

def encodeText (text : String) : List Char := (Bytes.ofString text).flatMap encodeByte

def encodeEntry (name : String) (values : List String) : List (List Char) :=
  if values.isEmpty then [encodeText name]
  else values.map fun value => encodeText name ++ '=' :: encodeText value

/-- The parts are joined by `&`; nothing is joined to an empty part at the front. -/
def encode (p : Parameters) : List Char :=
  ['&'].intercalate ((p.entries.flatMap fun e => encodeEntry e.1 e.2).dropWhile List.isEmpty)

/-- The encoded parameters; no parameters have no encoding. -/
def encode? (p : Parameters) : Option String :=
  if p.isEmpty then none else some (String.ofList (encode p))

/-! ### Reading -/

def decodeText (bytes : Bytes) : Bytes :=
  Percent.decode (bytes.map fun b => if b = 0x2B then 0x20 else b)

/-- The pairs of a form; empty parts are skipped. -/
def decode (bytes : Bytes) : List (Bytes × Bytes) :=
  ((Parts.split (· = 0x26) bytes).filter (· ≠ [])).map fun part =>
    (decodeText (part.takeWhile (· ≠ 0x3D)), decodeText ((part.dropWhile (· ≠ 0x3D)).drop 1))

end Form

end ServiceCall
