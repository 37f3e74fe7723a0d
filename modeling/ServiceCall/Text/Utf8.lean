/-!
UTF-8. One decoder serves the strict and the lenient reading: it yields `none` for each longest
run of bytes that starts a character and cannot be finished.
-/

namespace ServiceCall

abbrev Bytes := List UInt8

namespace Utf8

/-- A character of which `needed` bytes are missing; the next one lies between `low` and `high`. -/
structure Pending where
  needed : Nat
  value : Nat
  low : UInt8 := 0x80
  high : UInt8 := 0xBF

def start (b : UInt8) : List (Option Char) × Option Pending :=
  let n := b.toNat
  if n < 0x80 then ([some (Char.ofNat n)], none)
  else if n < 0xC2 then ([none], none)
  else if n < 0xE0 then ([], some ⟨1, n - 0xC0, 0x80, 0xBF⟩)
  else if n = 0xE0 then ([], some ⟨2, 0, 0xA0, 0xBF⟩)
  else if n = 0xED then ([], some ⟨2, 13, 0x80, 0x9F⟩)
  else if n < 0xF0 then ([], some ⟨2, n - 0xE0, 0x80, 0xBF⟩)
  else if n = 0xF0 then ([], some ⟨3, 0, 0x90, 0xBF⟩)
  else if n < 0xF4 then ([], some ⟨3, n - 0xF0, 0x80, 0xBF⟩)
  else if n = 0xF4 then ([], some ⟨3, 4, 0x80, 0x8F⟩)
  else ([none], none)

def step : Option Pending → UInt8 → List (Option Char) × Option Pending
  | none, b => start b
  | some p, b =>
    if p.low ≤ b ∧ b ≤ p.high then
      let value := p.value * 64 + b.toNat % 64
      if p.needed ≤ 1 then ([some (Char.ofNat value)], none)
      else ([], some { needed := p.needed - 1, value })
    else
      let (out, next) := start b
      (none :: out, next)

def decodeFrom : Option Pending → Bytes → List (Option Char)
  | none, [] => []
  | some _, [] => [none]
  | p, b :: rest =>
    let (out, next) := step p b
    out ++ decodeFrom next rest

def decode (bytes : Bytes) : List (Option Char) := decodeFrom none bytes

def encode (text : List Char) : Bytes := text.flatMap String.utf8EncodeChar

end Utf8

namespace Bytes

def ofString (s : String) : Bytes := Utf8.encode s.toList

/-- The text that the bytes encode, if they are valid throughout. -/
def toString? (bytes : Bytes) : Option String :=
  ((Utf8.decode bytes).mapM id).map String.ofList

/-- The text of the bytes with a replacement character for each ill-formed run. -/
def toStringLossy (bytes : Bytes) : String :=
  String.ofList ((Utf8.decode bytes).map (·.getD (Char.ofNat 0xFFFD)))

end Bytes

end ServiceCall
