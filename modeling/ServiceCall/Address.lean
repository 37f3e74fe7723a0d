import ServiceCall.Uri
import ServiceCall.Url.Reading

/-! Joining, resolving and redacting the addresses of a call. -/

namespace ServiceCall.Address

def trimEnd (c : Char) (text : List Char) : List Char :=
  (text.reverse.dropWhile (· = c)).reverse

/-- Joins with one slash, unless a side is empty once its slashes at the seam are taken away. -/
def joinPath (base path : List Char) : List Char :=
  let base := trimEnd '/' base
  let path := path.dropWhile (· = '/')
  if base.isEmpty then path
  else if path.isEmpty then base
  else base ++ '/' :: path

def endsWithSlash (text : List Char) : Bool := text.getLast? = some '/'

/-- Text of the address of `path` below `endpoint`; an empty path and one that ends with a
slash end the address with a slash. -/
def below (endpoint : Uri) (path : String) : List Char :=
  let joined := joinPath endpoint.text.toList path.toList
  if (path.isEmpty || endsWithSlash path.toList) && !endsWithSlash joined then joined ++ ['/']
  else joined

def withQuery (text : List Char) : Option String → List Char
  | none => text
  | some query => text ++ (if text.contains '?' then '&' else '?') :: query.toList

/-- The address that a redirect names, seen from the address that answered. -/
def resolve? (current : Uri) (location : String) : Option Uri :=
  ((Url.ofString? current.text).bind (·.join? location)).bind fun u => Uri.ofString? u.text

/-- An address without user, query and fragment, for messages. What cannot be read as a web
address is cut at its query. -/
def redact (text : String) : String :=
  match Url.ofString? text with
  | some u => u.redacted.text
  | none => String.ofList (text.toList.takeWhile (· ≠ '?'))

end ServiceCall.Address
