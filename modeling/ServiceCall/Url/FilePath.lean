import ServiceCall.Url.Segments

/-!
Paths of files. The first segment may be a drive, which is kept with a colon. Tabs and line ends,
the breaks of a text, are no part of a path; but one that follows the colon of a drive at the
head parts the drive from a name.
-/

namespace ServiceCall

/-- A path as far as it is read. `onDrive` says that its first segment was written as a drive. -/
structure FilePath where
  names : List String := []
  onDrive : Bool := false
  deriving DecidableEq, Repr

namespace FilePath

/-! ### Breaks -/

def isBreak (c : Char) : Bool := c = '\t' || c = '\n' || c = '\r'

def withoutBreaks (text : List Char) : List Char := text.filter (!isBreak ·)

/-- A drive and the name that a break parts from it. -/
def parted? : List Char → Option (List Char × List Char)
  | letter :: ':' :: mark :: rest =>
    if letter.isAlpha && isBreak mark && !rest.isEmpty then some ([letter, ':'], rest) else none
  | _ => none

/-! ### Names -/

/-- Appends a name, which may hold breaks. -/
def push (p : FilePath) (name : List Char) : FilePath :=
  { p with names := p.names ++ [Url.escape Url.escapedInPath (withoutBreaks name)] }

/-- Appends a segment that is no dots. -/
def add (p : FilePath) (segment : List Char) : FilePath :=
  if !p.names.isEmpty then p.push segment
  else if Segments.isDrive (withoutBreaks segment) then
    { names := [String.ofList (Segments.withColon segment)], onDrive := true }
  else
    match parted? segment with
    | some (drive, name) => (p.push drive).push name
    | none => p.push segment

/-- Appends segments; dots at the end leave an empty segment behind. -/
def append (p : FilePath) : List (List Char) → FilePath
  | [] => p
  | segment :: rest =>
    match Segments.afterDots? p.names (withoutBreaks segment) with
    | some left =>
      if rest.isEmpty then { p with names := left ++ [""] }
      else append { p with names := left } rest
    | none => append (p.add segment) rest

/-- The path of a text that stands below others. Its empty segments at the head are still to be
dropped. -/
def below (names : List String) (text : List Char) : FilePath :=
  append { names } (Parts.split (Segments.isSlash true) text)

/-- Continues a path whose last segment is a drive: dots stay on the drive, and a name is written
right after it. -/
def continueDrive (names : List String) (drive : String) : List (List Char) → FilePath
  | [] => { names := names ++ [drive] }
  | segment :: rest =>
    let segment := withoutBreaks segment
    let dots := Segments.unescapeDots segment
    if dots = ['.', '.'] then append { names := names ++ [drive] } rest
    else if dots = ['.'] then
      append { names := names ++ [drive] } (if rest.isEmpty then [[]] else rest)
    else append { names := names ++ [drive ++ Url.escape Url.escapedInPath segment] } rest

/-- The path of a text relative to a file. Below a drive that stands alone are the files on it. -/
def beside (names : List String) (text : List Char) : FilePath :=
  match names.getLast? with
  | none => below [] text
  | some last =>
    if !Segments.isColonDrive last.toList then below names.dropLast text
    else if names.length = 1 then below names text
    else continueDrive names.dropLast last (Parts.split (Segments.isSlash true) text)

end FilePath

end ServiceCall
