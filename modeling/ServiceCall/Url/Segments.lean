import ServiceCall.Text.Parts
import ServiceCall.Url.Escape

/-!
Segments of the paths of web addresses. `..` takes away the segment before it and `.` stands for
nothing; but a segment that begins with a drive, such as `C:` or `C:\x`, is never taken away by
dots.
-/

namespace ServiceCall.Segments

def isSlash (special : Bool) (c : Char) : Bool := c = '/' || (special && c = '\\')

/-! ### Drives -/

def isDrive : List Char → Bool
  | [letter, mark] => letter.isAlpha && (mark = ':' || mark = '|')
  | _ => false

/-- The form in which the drives of files are kept. -/
def isColonDrive : List Char → Bool
  | [letter, mark] => letter.isAlpha && mark = ':'
  | _ => false

def withColon (drive : List Char) : List Char := drive.take 1 ++ [':']

/-- Whether the text begins with a segment that names a drive. -/
def startsWithDrive (text : List Char) : Bool :=
  isDrive (text.takeWhile fun c => !(isSlash true c || c = '?' || c = '#'))

/-! ### Dots -/

def unescapeDots : List Char → List Char
  | '%' :: '2' :: 'e' :: rest => '.' :: unescapeDots rest
  | '%' :: '2' :: 'E' :: rest => '.' :: unescapeDots rest
  | c :: rest => c :: unescapeDots rest
  | [] => []

/-- What `..` leaves. -/
def parent (names : List String) : List String :=
  if names.getLast?.any (startsWithDrive ·.toList) then names else names.dropLast

/-- What a segment of dots leaves of those before it; `none` for a segment that is a name. -/
def afterDots? (names : List String) (segment : List Char) : Option (List String) :=
  let dots := unescapeDots segment
  if dots = ['.', '.'] then some (parent names) else if dots = ['.'] then some names else none

/-- Appends segments; dots at the end leave an empty segment behind. -/
def append (names : List String) : List (List Char) → List String
  | [] => names
  | segment :: rest =>
    match afterDots? names segment with
    | some left => if rest.isEmpty then left ++ [""] else append left rest
    | none => append (names ++ [Url.escape Url.escapedInPath segment]) rest

/-- The segments of a text that stands below others. -/
def below (special : Bool) (names : List String) (text : List Char) : List String :=
  append names (Parts.split (isSlash special) text)

def dropSlash (special : Bool) : List Char → List Char
  | [] => []
  | c :: rest => if isSlash special c then rest else c :: rest

/-- The path of an address that begins at its root. -/
def rooted (special : Bool) (text : List Char) : List String :=
  if text.isEmpty && !special then [] else below special [] (dropSlash special text)

/-! ### Files -/

def dropEmptyHead : List String → List String
  | "" :: name :: rest => dropEmptyHead (name :: rest)
  | names => names

/-- The drive at the head of a path. -/
def drive? (names : List String) : Option String := names.head?.filter (isColonDrive ·.toList)

end ServiceCall.Segments
