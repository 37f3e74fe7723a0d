import ServiceCall.Json.Token

/-!
Well-formed JSON texts as trees, whose strings and numbers have not been read yet. Trees may be
nested to any depth.
-/

namespace ServiceCall.Json

inductive Tree where
  | null
  | bool (b : Bool)
  | number (text : List Char)
  | string (raw : Bytes)
  | array (items : List Tree)
  | object (members : List (Bytes × Tree))

namespace Tree

instance : Inhabited Tree := ⟨.null⟩

/-- A list or an object that is not closed yet; its last parts come first. -/
inductive Frame where
  | array (items : List Tree)
  | object (members : List (Bytes × Tree))
  | member (members : List (Bytes × Tree)) (key : Bytes)

/-- What may come next. -/
inductive Expected where
  | value | firstItem | firstKey | key | colon (key : Bytes) | more

inductive Progress where
  | finished (t : Tree)
  | within (expected : Expected) (frames : List Frame)

/-- Puts a finished value where it belongs. -/
def place (t : Tree) : List Frame → Option Progress
  | [] => some (.finished t)
  | .array items :: frames => some (.within .more (.array (t :: items) :: frames))
  | .member members key :: frames =>
    some (.within .more (.object ((key, t) :: members) :: frames))
  | .object _ :: _ => none

def beginValue (frames : List Frame) : Token → Option Progress
  | .openObject => some (.within .firstKey (.object [] :: frames))
  | .openArray => some (.within .firstItem (.array [] :: frames))
  | .null => place .null frames
  | .bool b => place (.bool b) frames
  | .number text => place (.number text) frames
  | .string raw => place (.string raw) frames
  | _ => none

def step : Progress → Token → Option Progress
  | .finished _, _ => none
  | .within .value frames, token => beginValue frames token
  | .within .firstItem (.array [] :: frames), .closeArray => place (.array []) frames
  | .within .firstItem frames, token => beginValue frames token
  | .within .firstKey (.object [] :: frames), .closeObject => place (.object []) frames
  | .within .firstKey frames, .string raw => some (.within (.colon raw) frames)
  | .within .key frames, .string raw => some (.within (.colon raw) frames)
  | .within (.colon key) (.object members :: frames), .colon =>
    some (.within .value (.member members key :: frames))
  | .within .more (.array items :: frames), .comma => some (.within .value (.array items :: frames))
  | .within .more (.array items :: frames), .closeArray => place (.array items.reverse) frames
  | .within .more (.object members :: frames), .comma =>
    some (.within .key (.object members :: frames))
  | .within .more (.object members :: frames), .closeObject =>
    place (.object members.reverse) frames
  | _, _ => none

def ofTokens? (tokens : List Token) : Option Tree :=
  match tokens.foldlM step (.within .value []) with
  | some (.finished t) => some t
  | _ => none

def ofBytes? (bytes : Bytes) : Option Tree := (Token.ofBytes? bytes).bind ofTokens?

end Tree

end ServiceCall.Json
