/-!
Addresses that a request is sent to: `scheme://authority/path?query`, an authority alone, or a
path alone. Reading drops the fragment; scheme and authority come together or, for an address
without a path, the authority may stand alone.
-/

namespace ServiceCall

inductive Scheme where
  | http
  | https
  | other (name : String)
  deriving DecidableEq, Repr

namespace Scheme

def text : Scheme → String
  | .http => "http"
  | .https => "https"
  | .other name => name

/-- Schemes other than the two known ones are compared without regard to case. -/
def same : Scheme → Scheme → Bool
  | .http, .http => true
  | .https, .https => true
  | .other a, .other b => a.toList.map Char.toLower = b.toList.map Char.toLower
  | _, _ => false

end Scheme

/-- An empty `authority` means that there is none; `query` holds what follows the first `?`. -/
structure Uri where
  scheme : Option Scheme
  authority : String
  path : String
  query : Option String
  deriving DecidableEq, Repr

namespace Uri

instance : Inhabited Uri := ⟨⟨none, "", "/", none⟩⟩

/-! ### Characters -/

/-- Characters of a scheme; the tilde is let through. -/
def isSchemeChar (c : Char) : Bool := c.isAlphanum || c = '+' || c = '-' || c = '.' || c = '~'

def isAuthorityChar (c : Char) : Bool :=
  c.isAlphanum || "!$&'()*+,-.:;=@[]_~".toList.contains c

def endsAuthority (c : Char) : Bool := c = '/' || c = '?' || c = '#'

/-- Characters of a path as they may stand in an address; a few of them should be escaped but
are let through. -/
def isPathChar (c : Char) : Bool :=
  let n := c.toNat
  n = 0x21 || n = 0x22 || (0x24 ≤ n && n ≤ 0x3B) || n = 0x3D || (0x40 ≤ n && n ≤ 0x5F)
    || n = 0x7E || (0x61 ≤ n && n ≤ 0x7D) || 0x80 ≤ n

def isQueryChar (c : Char) : Bool :=
  let n := c.toNat
  n = 0x21 || (0x24 ≤ n && n ≤ 0x3B) || n = 0x3D || (0x3F ≤ n && n ≠ 0x7F)

/-! ### Reading -/

/-- The longest text that is read as an address, in bytes. -/
def maxSize : Nat := 65534

def maxSchemeLength : Nat := 64

inductive SchemeReading where
  | absent
  | present (scheme : Scheme) (rest : List Char)
  | tooLong

def dropIgnoringCase? (lead text : List Char) : Option (List Char) :=
  if (text.take lead.length).map Char.toLower = lead then some (text.drop lead.length) else none

def readScheme (text : List Char) : SchemeReading :=
  match dropIgnoringCase? "http://".toList text with
  | some rest => .present .http rest
  | none =>
    match dropIgnoringCase? "https://".toList text with
    | some rest => .present .https rest
    | none =>
      if text.length ≤ 3 then .absent
      else
        match text.dropWhile isSchemeChar with
        | ':' :: '/' :: '/' :: rest =>
          let name := text.takeWhile isSchemeChar
          if maxSchemeLength < name.length then .tooLong
          else .present (.other (String.ofList name)) rest
        | _ => .absent

/-- What has been seen of an authority since its last `@` or `]`. -/
structure AuthorityScan where
  colons : Nat := 0
  percent : Bool := false
  opened : Bool := false
  closed : Bool := false
  afterAt : Bool := false

def AuthorityScan.step? (s : AuthorityScan) (c : Char) : Option AuthorityScan :=
  if c = ':' then
    if 8 ≤ s.colons then none else some { s with colons := s.colons + 1, afterAt := false }
  else if c = '[' then
    if s.percent || s.opened then none else some { s with opened := true, afterAt := false }
  else if c = ']' then
    if !s.opened || s.closed then none
    else some { s with closed := true, colons := 0, percent := false, afterAt := false }
  else if c = '@' then some { s with colons := 0, percent := false, afterAt := true }
  else if c = '%' then some { s with percent := true, afterAt := false }
  else if isAuthorityChar c then some { s with afterAt := false }
  else none

/-- At the end brackets are paired, at most one colon (of a port) is left, nothing after the
user part is escaped, and a host follows the `@`. -/
def AuthorityScan.accepts (s : AuthorityScan) : Bool :=
  (s.opened == s.closed) && s.colons ≤ 1 && !s.afterAt && !s.percent

/-- Splits off the authority, which ends at the first `/`, `?` or `#`. -/
def readAuthority? (text : List Char) : Option (List Char × List Char) :=
  let name := text.takeWhile (!endsAuthority ·)
  match name.foldlM AuthorityScan.step? {} with
  | some scan => if scan.accepts then some (name, text.dropWhile (!endsAuthority ·)) else none
  | none => none

/-- Path and query up to the fragment. -/
def readPathAndQuery? (text : List Char) : Option (String × Option String) :=
  let visible := text.takeWhile (· ≠ '#')
  let path := visible.takeWhile (· ≠ '?')
  if !path.all isPathChar then none
  else
    match visible.dropWhile (· ≠ '?') with
    | [] => some (String.ofList path, none)
    | _ :: query =>
      if query.all isQueryChar then some (String.ofList path, some (String.ofList query)) else none

def ofChars? (text : List Char) : Option Uri :=
  match text with
  | [] => none
  | ['*'] => some ⟨none, "", "*", none⟩
  | '/' :: _ => (readPathAndQuery? text).map fun (path, query) => ⟨none, "", path, query⟩
  | _ =>
    match readScheme text with
    | .tooLong => none
    | .absent =>
      match readAuthority? text with
      | some (name, []) => some ⟨none, String.ofList name, "", none⟩
      | _ => none
    | .present scheme rest =>
      match readAuthority? rest with
      | some ([], _) => none
      | some (name, rest) =>
        (readPathAndQuery? rest).map fun (path, query) =>
          ⟨some scheme, String.ofList name, if path.isEmpty then "/" else path, query⟩
      | none => none

def ofString? (text : String) : Option Uri :=
  if maxSize < text.utf8ByteSize then none else ofChars? text.toList

/-! ### Text -/

def queryText : Option String → String
  | none => ""
  | some q => "?" ++ q

def schemeText : Option Scheme → String
  | none => ""
  | some s => s.text ++ "://"

def text (u : Uri) : String := schemeText u.scheme ++ u.authority ++ u.path ++ queryText u.query

/-! ### Parts -/

/-- Whether two addresses are the same; scheme and authority are compared without regard to
case. -/
def same (u v : Uri) : Bool :=
  (match u.scheme, v.scheme with
    | none, none => true
    | some s, some t => s.same t
    | _, _ => false)
  && (u.authority.toList.map Char.toLower = v.authority.toList.map Char.toLower)
  && u.path = v.path && u.query = v.query

/-- `scheme://authority/`, for an address that has both. -/
def root? (u : Uri) : Option Uri :=
  match u.scheme with
  | some s => if u.authority.isEmpty then none else some ⟨some s, u.authority, "/", none⟩
  | none => none

/-- What follows the last `@` of the authority. -/
def hostAndPort (u : Uri) : List Char :=
  (u.authority.toList.reverse.takeWhile (· ≠ '@')).reverse

/-- The host, with its brackets if it is an address in brackets. -/
def host? (u : Uri) : Option String :=
  if u.authority.isEmpty then none
  else
    match u.hostAndPort with
    | '[' :: rest => some (String.ofList ('[' :: rest.takeWhile (· ≠ ']') ++ [']']))
    | cs => some (String.ofList (cs.takeWhile (· ≠ ':')))

/-- The number after the last colon, if it is one of 16 bits. -/
def port? (u : Uri) : Option Nat :=
  let cs := u.authority.toList.reverse
  match cs.dropWhile (· ≠ ':') with
  | [] => none
  | _ :: _ =>
    let digits := (cs.takeWhile (· ≠ ':')).reverse
    let digits := match digits with
      | '+' :: rest => rest
      | _ => digits
    if digits.isEmpty || !digits.all Char.isDigit then none
    else
      let n := digits.foldl (fun n c => n * 10 + (c.toNat - 48)) 0
      if n < 65536 then some n else none

end Uri

end ServiceCall
