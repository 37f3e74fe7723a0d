import ServiceCall.Url.Host

/-! Web addresses as browsers read them: their parts and their text. -/

namespace ServiceCall

inductive UrlPath where
  | verbatim (text : String)
  | segments (names : List String)
  deriving DecidableEq, Repr

/-- `host` is absent when no authority is written; a default port is not kept. -/
structure Url where
  scheme : String
  username : String := ""
  password : String := ""
  host : Option Host := none
  port : Option Nat := none
  path : UrlPath := .segments []
  query : Option String := none
  fragment : Option String := none
  deriving DecidableEq, Repr

namespace Url

def isSpecialScheme (scheme : String) : Bool :=
  scheme = "http" || scheme = "https" || scheme = "ws" || scheme = "wss" || scheme = "ftp"
    || scheme = "file"

def isSpecial (u : Url) : Bool := isSpecialScheme u.scheme

/-- The segments of the path, if it has any. -/
def segments (u : Url) : List String :=
  match u.path with
  | .segments names => names
  | .verbatim _ => []

def defaultPort? (scheme : String) : Option Nat :=
  if scheme = "http" || scheme = "ws" then some 80
  else if scheme = "https" || scheme = "wss" then some 443
  else if scheme = "ftp" then some 21
  else none

/-! ### Text -/

def userText (u : Url) : String :=
  let user := u.username ++ (if u.password.isEmpty then "" else ":" ++ u.password)
  if user.isEmpty then "" else user ++ "@"

def portText : Option Nat → String
  | none => ""
  | some n => s!":{n}"

def authorityText (u : Url) : String :=
  match u.host with
  | some host => "//" ++ u.userText ++ host.text ++ portText u.port
  | none => ""

def pathText (u : Url) : String :=
  match u.path with
  | .verbatim text => text
  | .segments names =>
    let joined := String.join (names.map ("/" ++ ·))
    if u.host.isNone && 1 < names.length && names.head? = some "" then "/." ++ joined else joined

def queryText : Option String → String
  | none => ""
  | some q => "?" ++ q

def fragmentText : Option String → String
  | none => ""
  | some f => "#" ++ f

def text (u : Url) : String :=
  u.scheme ++ ":" ++ u.authorityText ++ u.pathText ++ queryText u.query ++ fragmentText u.fragment

/-! ### Redaction -/

/-- Without query and fragment and, where there is a host, without the user part. -/
def redacted (u : Url) : Url :=
  let named := match u.host with
    | some host => !host.isEmpty && u.scheme ≠ "file"
    | none => false
  { u with
    username := if named then "" else u.username
    password := if named then "" else u.password
    query := none
    fragment := none }

end Url

end ServiceCall
