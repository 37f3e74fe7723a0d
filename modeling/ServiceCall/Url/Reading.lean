import ServiceCall.Url.Basic
import ServiceCall.Url.Escape
import ServiceCall.Url.FilePath

/-!
Reading a web address, on its own or relative to another one. The reader is lenient: it trims
blanks, drops tabs and line ends, escapes what should have been escaped, and resolves dot
segments.
-/

namespace ServiceCall.Url

open Segments (isSlash)
open FilePath (isBreak withoutBreaks)

/-! ### Cutting -/

def isBlankOrControl (c : Char) : Bool := c.toNat ≤ 0x20

def trimmed (text : List Char) : List Char :=
  ((text.dropWhile isBlankOrControl).reverse.dropWhile isBlankOrControl).reverse

/-- Keeps of breaks only those that follow a colon, one at each. -/
def breaksAfterColons (afterColon : Bool) : List Char → List Char
  | [] => []
  | c :: rest =>
    if isBreak c then
      if afterColon then c :: breaksAfterColons false rest else breaksAfterColons false rest
    else c :: breaksAfterColons (c = ':') rest

/-- Where a path ends: at the query or the fragment. -/
def endsPath (c : Char) : Bool := c = '?' || c = '#'

def endsAuthority (special : Bool) (c : Char) : Bool := isSlash special c || endsPath c

/-- The scheme in lower case and what follows its colon. -/
def readScheme? (text : List Char) : Option (String × List Char) :=
  match text with
  | c :: _ =>
    if !c.isAlpha then none
    else
      let isPart (c : Char) := c.isAlphanum || c = '+' || c = '-' || c = '.'
      match text.dropWhile isPart with
      | ':' :: rest => some (String.ofList ((text.takeWhile isPart).map Char.toLower), rest)
      | _ => none
  | [] => none

def readFragment : List Char → Option String
  | '#' :: rest => some (escape escapedInFragment rest)
  | _ => none

/-- Query and fragment, given what follows the path. -/
def readTail (special : Bool) (text : List Char) : Option String × Option String :=
  match text with
  | '?' :: rest =>
    let escaped := if special then escapedInSpecialQuery else escapedInQuery
    (some (escape escaped (rest.takeWhile (· ≠ '#'))), readFragment (rest.dropWhile (· ≠ '#')))
  | _ => (none, readFragment text)

/-! ### Authorities -/

/-- User name and password, given what precedes the last `@`. -/
def readUser (text : List Char) : String × String :=
  (escape escapedInUser (text.takeWhile (· ≠ ':')),
    escape escapedInUser ((text.dropWhile (· ≠ ':')).drop 1))

/-- The host text ends at the first colon that is not within brackets. -/
def splitHost : Bool → List Char → List Char × List Char
  | _, [] => ([], [])
  | inside, c :: rest =>
    if c = ':' && !inside then ([], c :: rest)
    else
      let inside := if c = '[' then true else if c = ']' then false else inside
      let (host, port) := splitHost inside rest
      (c :: host, port)

/-- The port and what follows it: nothing, or a path that begins with a backslash. `none` for a
port that is not a number of 16 bits; no digits mean no port. -/
def readPort? : List Char → Option (Option Nat × List Char)
  | ':' :: text =>
    let digits := text.takeWhile Char.isDigit
    let rest := text.dropWhile Char.isDigit
    let n := digits.foldl (fun n c => min 65536 (n * 10 + (c.toNat - 48))) 0
    if rest.head?.any (· ≠ '\\') || n = 65536 then none
    else some (if digits.isEmpty then none else some n, rest)
  | _ => some (none, [])

/-- The parts of what stands between `//` and the path, and what a port leaves of it. -/
def readAuthority? (scheme : String) (text : List Char) : Option (Url × List Char) :=
  let special := isSpecialScheme scheme
  let reversed := text.reverse
  let server := (reversed.takeWhile (· ≠ '@')).reverse
  let user := ((reversed.dropWhile (· ≠ '@')).drop 1).reverse
  let (hostText, portText) := splitHost false server
  let (username, password) := readUser user
  let host? := if special then Host.ofChars? hostText else Host.ofOpaque? hostText
  match host?, readPort? portText with
  | some host, some (port, rest) =>
    if host.isEmpty && (text.contains '@' || !portText.isEmpty) then none
    else
      let port := if port = defaultPort? scheme then none else port
      some ({ scheme, username, password, host := some host, port }, rest)
  | _, _ => none

/-- What follows `scheme://`. -/
def readAfterSlashes? (scheme : String) (text : List Char) : Option Url :=
  let special := isSpecialScheme scheme
  match readAuthority? scheme (text.takeWhile (!endsAuthority special ·)) with
  | none => none
  | some (u, left) =>
    let rest := left ++ text.dropWhile (!endsAuthority special ·)
    let (query, fragment) := readTail special (rest.dropWhile (!endsPath ·))
    some { u with
      path := .segments (Segments.rooted special (rest.takeWhile (!endsPath ·))), query, fragment }

/-! ### Files -/

/-- The host of a file; `localhost` is the same as none. -/
def readFileHost? (text : List Char) : Option Host :=
  if text.isEmpty then some (.opaqueName "")
  else
    (Host.ofChars? text).map fun host =>
      if host = .domain "localhost" then .opaqueName "" else host

/-- A file, given its path and what follows it. -/
def file (host : Host) (path : FilePath) (tail : List Char) : Url :=
  let (query, fragment) := readTail true (withoutBreaks tail)
  { scheme := "file", host := some host, path := .segments (Segments.dropEmptyHead path.names),
    query, fragment }

/-- What follows `file://`. A file on a drive has no host. -/
def readFileAfterSlashes? (text : List Char) : Option Url :=
  let hostText := withoutBreaks (text.takeWhile (!endsAuthority true ·))
  let tail := text.dropWhile (!endsPath ·)
  if Segments.isDrive hostText then
    some (file (.opaqueName "") (FilePath.below [] (text.takeWhile (!endsPath ·))) tail)
  else
    let path := (text.dropWhile (!endsAuthority true ·)).takeWhile (!endsPath ·)
    let path := FilePath.below [] (Segments.dropSlash true path)
    (readFileHost? hostText).map fun host =>
      file (if path.onDrive then .opaqueName "" else host) path tail

/-- A file whose path begins with one slash, seen from another file: on the same drive or the
same host, unless a drive is named. -/
def rootedFile (base : Option Url) (text : List Char) : Url :=
  let path := (Segments.dropSlash true text).takeWhile (!endsPath ·)
  let tail := text.dropWhile (!endsPath ·)
  let onDrive (drive : List String) := file (.opaqueName "") (FilePath.below drive path) tail
  if Segments.startsWithDrive (withoutBreaks (Segments.dropSlash true text)) then onDrive []
  else
    match base with
    | none => onDrive []
    | some b =>
      match Segments.drive? b.segments with
      | some drive => onDrive [drive]
      | none => file (b.host.getD (.opaqueName "")) (FilePath.below [] path) tail

/-- A file named relative to another one. -/
def fileBeside (base : Url) (text : List Char) : Url :=
  let path := text.takeWhile (!endsPath ·)
  let tail := text.dropWhile (!endsPath ·)
  if path.isEmpty then
    let (query, fragment) := readTail true (withoutBreaks tail)
    { base with query := if query.isSome then query else base.query, fragment }
  else if Segments.startsWithDrive (withoutBreaks text) then
    file (.opaqueName "") (FilePath.below [] path) tail
  else
    file (base.host.getD (.opaqueName "")) (FilePath.beside base.segments path) tail

/-- A file, in a text that may hold breaks after colons. -/
def readFile? (base : Option Url) (text : List Char) : Option Url :=
  match text.dropWhile isBreak with
  | a :: b :: rest =>
    if isSlash true a && isSlash true b then readFileAfterSlashes? rest
    else some (readOneFile base (a :: b :: rest))
  | text => some (readOneFile base text)
where
  readOneFile (base : Option Url) (text : List Char) : Url :=
    if text.head?.any (isSlash true) then rootedFile base text
    else
      match base with
      | some b => fileBeside b text
      | none =>
        file (.opaqueName "") (FilePath.below [] (text.takeWhile (!endsPath ·)))
          (text.dropWhile (!endsPath ·))

/-! ### Relative addresses -/

/-- An address without scheme, read against a base that has a hierarchy of segments. At its head
a backslash counts as a slash under any scheme. -/
def readRelative? (base : Url) (names : List String) (text : List Char) : Option Url :=
  let special := base.isSpecial
  let path := text.takeWhile (!endsPath ·)
  let (query, fragment) := readTail special (text.dropWhile (!endsPath ·))
  match text with
  | '/' :: '/' :: rest => readAfterSlashes? base.scheme rest
  | c :: d :: rest =>
    if isSlash true c && isSlash true d then
      readAfterSlashes? base.scheme (rest.dropWhile (isSlash true))
    else some (hierarchical special path query fragment)
  | _ => some (hierarchical special path query fragment)
where
  hierarchical (special : Bool) (path : List Char) (query fragment : Option String) : Url :=
    match path with
    | [] =>
      { base with query := if query.isSome then query else base.query, fragment }
    | c :: rest =>
      if isSlash true c then
        { base with path := .segments (Segments.below special [] rest), query, fragment }
      else
        { base with path := .segments (Segments.below special names.dropLast path),
                    query, fragment }

/-- An address with a scheme that is not special. -/
def readOther? (scheme : String) (text : List Char) : Option Url :=
  let (query, fragment) := readTail false (text.dropWhile (!endsPath ·))
  match text with
  | '/' :: '/' :: rest => readAfterSlashes? scheme rest
  | '/' :: rest =>
    some { scheme, query, fragment,
           path := .segments (Segments.below false [] (rest.takeWhile (!endsPath ·))) }
  | _ =>
    some { scheme, query, fragment,
           path := .verbatim (escape isControl (text.takeWhile (!endsPath ·))) }

/-- An address with a scheme other than `file`. -/
def readWithScheme? (base : Option Url) (scheme : String) (text : List Char) : Option Url :=
  if isSpecialScheme scheme then
    let slashes := text.takeWhile (isSlash true)
    match base with
    | some b =>
      match b.path with
      | .segments names =>
        if slashes.length < 2 && b.scheme = scheme then readRelative? b names text
        else readAfterSlashes? scheme (text.dropWhile (isSlash true))
      | .verbatim _ => readAfterSlashes? scheme (text.dropWhile (isSlash true))
    | none => readAfterSlashes? scheme (text.dropWhile (isSlash true))
  else readOther? scheme text

/-- An address without a scheme, against a base that is no file. -/
def readWithoutScheme? (base : Url) (text : List Char) : Option Url :=
  match base.path with
  | .verbatim _ =>
    match text with
    | '#' :: _ => some { base with fragment := readFragment text }
    | _ => none
  | .segments names => readRelative? base names text

/-- Breaks count only in the paths of files. -/
def read? (base : Option Url) (text : List Char) : Option Url :=
  let marked := breaksAfterColons false (trimmed text)
  let text := withoutBreaks marked
  match readScheme? text with
  | some (scheme, rest) =>
    if scheme = "file" then
      readFile? (base.filter (·.scheme = "file")) ((marked.dropWhile (· ≠ ':')).drop 1)
    else readWithScheme? base scheme rest
  | none =>
    base.bind fun b =>
      if b.scheme = "file" then readFile? (some b) marked else readWithoutScheme? b text

def ofString? (text : String) : Option Url := read? none text.toList

/-- Resolves a reference against an address. -/
def join? (base : Url) (reference : String) : Option Url := read? (some base) reference.toList

end ServiceCall.Url
