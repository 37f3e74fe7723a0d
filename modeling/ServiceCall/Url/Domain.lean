import ServiceCall.Text.Composition
import ServiceCall.Text.Direction
import ServiceCall.Text.Joining
import ServiceCall.Text.Parts
import ServiceCall.Url.Domain.Mapping
import ServiceCall.Url.Punycode

/-!
Names of domains in the form in which they are looked up: ASCII in lower case, where a label with
other characters begins with `xn--` and goes on in Punycode.
-/

namespace ServiceCall.Domain

def isForbidden (c : Char) : Bool :=
  c.toNat = 0 || "\t\n\r #/:<>?@[\\]^|".toList.contains c

def isForbiddenInDomain (c : Char) : Bool :=
  isForbidden c || c.toNat < 0x20 || c = '%' || c.toNat = 0x7F

def isAscii (cs : List Char) : Bool := cs.all (·.toNat < 0x80)

/-- One form for all spellings of a name that differ only in case or looks. -/
def folded? (name : List Char) : Option (List Char) :=
  if isAscii name then some (name.map Char.toLower)
  else (name.mapM mapChar?).map fun parts => Composition.compose parts.flatten

/-- Whether folding leaves the text as it is. -/
def isFolded (text : List Char) : Bool :=
  text.all (fun c => mapChar? c = some [c]) && Composition.compose text = text

/-! ### Labels -/

/-- A label as it is read and as it is looked up. -/
structure Label where
  text : List Char
  ascii : List Char

def longestText : Nat := 1000

def longestPunycode : Nat := 2000

def punycodeSign : List Char := ['x', 'n', '-', '-']

/-- Whether a text that is not ASCII can be a label: it does not begin with a mark, and joins are
asked for only where they can be. -/
def isLabel (text : List Char) : Bool :=
  !text.head?.any Mark.isMark && Joining.wellPlaced [] text && text.length ≤ longestText

/-- The text behind Punycode, of which there is only one folded form. -/
def ofPunycode? (code : List Char) : Option (List Char) :=
  if code.isEmpty || code.getLast? = some '-' || !isAscii code || longestPunycode < code.length then
    none
  else (Punycode.decode? code).filter fun text => isFolded text && isLabel text

def Label.ofFolded? (label : List Char) : Option Label :=
  if punycodeSign.isPrefixOf label then
    (ofPunycode? (label.drop punycodeSign.length)).map fun text => ⟨text, label⟩
  else if isAscii label then some ⟨label, label⟩
  else if isLabel label then some ⟨label, punycodeSign ++ Punycode.encode label⟩
  else none

/-- Where one label turns the direction of writing, that of each label has to be plain. -/
def directionsAgree (labels : List Label) : Bool :=
  !labels.any (·.text.any Direction.turns) || labels.all (Direction.agree ·.text)

def ascii? (name : List Char) : Option (List Char) :=
  (folded? name).bind fun name =>
    match (Parts.split (· = '.') name).mapM Label.ofFolded? with
    | none => none
    | some labels =>
      let ascii := ['.'].intercalate (labels.map (·.ascii))
      if directionsAgree labels && !ascii.any isForbiddenInDomain then some ascii else none

end ServiceCall.Domain
