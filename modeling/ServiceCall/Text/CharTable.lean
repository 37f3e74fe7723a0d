import ServiceCall.Text.Hex
import ServiceCall.Text.Parts

/-!
Tables of characters, written as text. Entries stand between blanks. An entry is a code point or a
range of them, in hexadecimal; after `>` may follow code points that belong to it, joined by `+`:
`30-39 41-5A>61 BD>31+2044+32`.
-/

namespace ServiceCall

structure CharTable.Entry where
  first : Nat
  last : Nat
  codes : List Nat

abbrev CharTable := List CharTable.Entry

namespace CharTable

namespace Entry

def ofWord (word : List Char) : Entry :=
  let range := word.takeWhile (· ≠ '>')
  let codes := (word.dropWhile (· ≠ '>')).drop 1
  { first := Hex.toNat (range.takeWhile (· ≠ '-'))
    last := Hex.toNat (if range.contains '-' then (range.dropWhile (· ≠ '-')).drop 1 else range)
    codes := if codes.isEmpty then [] else (Parts.split (· = '+') codes).map Hex.toNat }

def covers (e : Entry) (c : Char) : Bool := e.first ≤ c.toNat && c.toNat ≤ e.last

/-- How far the character stands from the first one of the entry. -/
def offset (e : Entry) (c : Char) : Nat := c.toNat - e.first

end Entry

/-- The words between blanks and line ends, some of which may be empty. The first one goes on behind
what has been read of it, which stands backwards. -/
def wordsBehind (read : List Char) : List Char → List (List Char)
  | [] => [read.reverse]
  | c :: rest =>
    if c.isWhitespace then read.reverse :: wordsBehind [] rest else wordsBehind (c :: read) rest

def ofChars (text : List Char) : CharTable :=
  ((wordsBehind [] text).filter (!·.isEmpty)).map Entry.ofWord

def ofText (text : String) : CharTable := ofChars text.toList

def find? (t : CharTable) (c : Char) : Option Entry := List.find? (Entry.covers · c) t

def contains (t : CharTable) (c : Char) : Bool := (t.find? c).isSome

end CharTable

end ServiceCall
