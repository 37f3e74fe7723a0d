import ServiceCall.Text.Parts
import ServiceCall.Text.Percent
import ServiceCall.Url.Domain

/-!
Hosts of web addresses: domain names, IPv4 and IPv6 addresses, and the opaque hosts of schemes
that give them no meaning.
-/

namespace ServiceCall

inductive Host where
  | domain (name : String)
  | ipv4 (address : Nat)
  | ipv6 (pieces : List Nat)
  | opaqueName (text : String)
  deriving DecidableEq, Repr

namespace Host

/-! ### Numbers -/

def isDecimal (cs : List Char) : Bool := !cs.isEmpty && cs.all Char.isDigit

def valueIn (base : Nat) (cs : List Char) : Option Nat :=
  cs.foldlM (fun n c => (Hex.value? c).bind fun d =>
    if d < base then some (n * base + d) else none) 0

/-- A part of an IPv4 address: hexadecimal after `0x`, octal after `0`, else decimal. -/
def ipv4Number? : List Char → Option Nat
  | [] => none
  | '0' :: 'x' :: rest => valueIn 16 rest
  | '0' :: 'X' :: rest => valueIn 16 rest
  | '0' :: rest => valueIn 8 rest
  | cs => valueIn 10 cs

/-- The dot-separated parts; a dot at the end is not followed by a part. -/
def dottedParts (cs : List Char) : List (List Char) :=
  let parts := Parts.split (· = '.') cs
  if 1 < parts.length ∧ parts.getLast? = some [] then parts.dropLast else parts

/-- A name is read as an IPv4 address if its last part is a number. -/
def endsInNumber (cs : List Char) : Bool :=
  match (dottedParts cs).getLast? with
  | none => false
  | some last => isDecimal last || (last ≠ [] && (ipv4Number? last).isSome)

/-- The last part fills the bytes that the parts before it leave. -/
def ipv4? (cs : List Char) : Option Nat :=
  let parts := dottedParts cs
  if 4 < parts.length then none
  else
    match parts.mapM ipv4Number? with
    | none => none
    | some numbers =>
      let leading := numbers.dropLast
      match numbers.getLast? with
      | none => none
      | some last =>
        if leading.any (255 < ·) || Nat.pow 256 (5 - numbers.length) ≤ last then none
        else
          let high := leading.zipIdx.map fun (n, i) => n * Nat.pow 256 (3 - i)
          some (last + high.foldl (· + ·) 0)

def ipv4Text (address : Nat) : String :=
  s!"{address / 16777216 % 256}.{address / 65536 % 256}.{address / 256 % 256}.{address % 256}"

/-! ### IPv6 -/

/-- Four decimal parts of at most 255, without leading zeros. -/
def embeddedIpv4? (cs : List Char) : Option (List Nat) :=
  let parts := Parts.split (· = '.') cs
  if parts.length ≠ 4 then none
  else
    match parts.mapM (fun p =>
      if isDecimal p && p.length ≤ 3 && (p.length = 1 || p.head? ≠ some '0') then valueIn 10 p
      else none) with
    | some [a, b, c, d] =>
      if a < 256 ∧ b < 256 ∧ c < 256 ∧ d < 256 then some [a * 256 + b, c * 256 + d] else none
    | _ => none

def hexPiece? (cs : List Char) : Option Nat :=
  if cs.isEmpty || 4 < cs.length then none else valueIn 16 cs

/-- Pieces separated by colons; only the last one may be an IPv4 address. -/
def ipv6Pieces? (cs : List Char) : Option (List Nat) :=
  if cs.isEmpty then some []
  else
    let parts := Parts.split (· = ':') cs
    match parts.getLast? with
    | none => none
    | some last =>
      match parts.dropLast.mapM hexPiece? with
      | none => none
      | some leading =>
        if last.contains '.' then (embeddedIpv4? last).map (leading ++ ·)
        else (hexPiece? last).map fun p => leading ++ [p]

/-- What precedes and what follows the first `::`. -/
def splitGap : List Char → Option (List Char × List Char)
  | [] => none
  | ':' :: ':' :: rest => some ([], rest)
  | c :: rest => (splitGap rest).map fun (a, b) => (c :: a, b)

def ipv6? (cs : List Char) : Option (List Nat) :=
  match splitGap cs with
  | none =>
    match ipv6Pieces? cs with
    | some pieces => if pieces.length = 8 then some pieces else none
    | none => none
  | some (before, after) =>
    if before.contains '.' then none
    else
      match ipv6Pieces? before, ipv6Pieces? after with
      | some a, some b =>
        if a.length + b.length ≤ 7 then some (a ++ List.replicate (8 - a.length - b.length) 0 ++ b)
        else none
      | _, _ => none

/-- Length of the run of zeros at the head. -/
def zeroRun (pieces : List Nat) : Nat := (pieces.takeWhile (· = 0)).length

/-- Start and length of the first longest run of at least two zeros. -/
def longestZeroRun (pieces : List Nat) : Nat × Nat :=
  (List.range pieces.length).foldl (fun best i =>
    let n := zeroRun (pieces.drop i)
    if 2 ≤ n ∧ best.2 < n then (i, n) else best) (0, 0)

def hexPieces (pieces : List Nat) : String :=
  ":".intercalate (pieces.map fun p => String.ofList (Hex.ofNat p))

def ipv6Text (pieces : List Nat) : String :=
  let (start, count) := longestZeroRun pieces
  if count = 0 then hexPieces pieces
  else hexPieces (pieces.take start) ++ "::" ++ hexPieces (pieces.drop (start + count))

/-! ### Reading -/

def ofBracketed? (cs : List Char) : Option Host :=
  if cs.getLast? = some ']' then (ipv6? cs.dropLast).map .ipv6 else none

/-- The host of an address whose scheme gives names a meaning. -/
def ofChars? : List Char → Option Host
  | [] => none
  | '[' :: rest => ofBracketed? rest
  | cs =>
    match Bytes.toStringLossy (Percent.decode (Utf8.encode cs)) |>.toList |> Domain.ascii? with
    | none => none
    | some [] => none
    | some name =>
      if endsInNumber name then (ipv4? name).map .ipv4 else some (.domain (String.ofList name))

/-- The host of an address with any other scheme; it may be empty. -/
def ofOpaque? : List Char → Option Host
  | '[' :: rest => ofBracketed? rest
  | cs =>
    if cs.any Domain.isForbidden then none
    else
      some (.opaqueName (String.ofList
        (Percent.encode (fun c => c.toNat < 0x20 || 0x7F ≤ c.toNat) cs)))

def text : Host → String
  | .domain name => name
  | .ipv4 address => ipv4Text address
  | .ipv6 pieces => "[" ++ ipv6Text pieces ++ "]"
  | .opaqueName text => text

def isEmpty (h : Host) : Bool := h.text.isEmpty

end Host

end ServiceCall
