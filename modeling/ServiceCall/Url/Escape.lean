import ServiceCall.Text.Percent

/-! Which characters are escaped in which part of a web address. -/

namespace ServiceCall.Url

def isControl (c : Char) : Bool := c.toNat < 0x20 || 0x7F ≤ c.toNat

def escapedInFragment (c : Char) : Bool := isControl c || " \"<>\x60".toList.contains c

def escapedInQuery (c : Char) : Bool := isControl c || " \"#<>".toList.contains c

def escapedInSpecialQuery (c : Char) : Bool := escapedInQuery c || c.toNat = 0x27

def escapedInPath (c : Char) : Bool := isControl c || " \"#<>?\x60\x7b\x7d".toList.contains c

def escapedInUser (c : Char) : Bool := escapedInPath c || "/:;=@[\\]^|".toList.contains c

def escape (escaped : Char → Bool) (cs : List Char) : String :=
  String.ofList (Percent.encode escaped cs)

end ServiceCall.Url
