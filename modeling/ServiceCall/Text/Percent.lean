import ServiceCall.Text.Hex

/-! Percent encoding: each byte outside a set becomes `%` and two upper-case digits. -/

namespace ServiceCall.Percent

def byte (b : UInt8) : List Char := ['%', Hex.digit (b.toNat / 16), Hex.digit (b.toNat % 16)]

def encodeChar (escaped : Char → Bool) (c : Char) : List Char :=
  if escaped c then (String.utf8EncodeChar c).flatMap byte else [c]

def encode (escaped : Char → Bool) (text : List Char) : List Char :=
  text.flatMap (encodeChar escaped)

/-- Undoes the escapes of a byte text; a `%` that no two digits follow stands for itself. -/
def decode : Bytes → Bytes
  | [] => []
  | b :: rest =>
    if b = 0x25 then
      match rest with
      | h :: l :: rest' =>
        match Hex.value? (Char.ofNat h.toNat), Hex.value? (Char.ofNat l.toNat) with
        | some h, some l => UInt8.ofNat (h * 16 + l) :: decode rest'
        | _, _ => b :: decode (h :: l :: rest')
      | _ => b :: rest
    else b :: decode rest

end ServiceCall.Percent
