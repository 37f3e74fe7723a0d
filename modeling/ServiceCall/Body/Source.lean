import ServiceCall.Error
import ServiceCall.Text.Utf8

/-!
Sources of bytes that are read piece by piece. How much a call hands over, and whether it fails,
is up to the source. A reader takes a call that hands over nothing for the end of the bytes.
-/

namespace ServiceCall

/-- How a source serves one call. -/
inductive Serving where
  | fail (error : IoError)
  | upTo (count : Nat)

/-- Bytes with a position, which may lie past their end. `serve` is given the number of calls so
far and the position. -/
structure Source where
  data : Bytes
  position : Nat := 0
  calls : Nat := 0
  serve : Nat → Nat → Serving := fun _ _ => .upTo 8192
  seekError : Option IoError := none
  positionError : Option IoError := none

namespace Source

instance : Inhabited Source := ⟨{ data := [] }⟩

def ofBytes (data : Bytes) : Source := { data }

def rest (s : Source) : Bytes := s.data.drop s.position

/-- One call for at most `n` bytes. Asking for none always succeeds. -/
def read (s : Source) (n : Nat) : Except IoError Bytes × Source :=
  if n = 0 then (.ok [], s)
  else
    match s.serve s.calls s.position with
    | .fail e => (.error e, { s with calls := s.calls + 1 })
    | .upTo k =>
      let got := s.rest.take (min n k)
      (.ok got, { s with position := s.position + got.length, calls := s.calls + 1 })

def tell (s : Source) : Except IoError Nat :=
  match s.positionError with
  | some e => .error e
  | none => .ok s.position

def seek (s : Source) (position : Nat) : Except IoError Source :=
  match s.seekError with
  | some e => .error e
  | none => .ok { s with position }

/-- Reads until a call hands over nothing; a failure loses what was read before it. -/
def drain (chunk : Nat) : Nat → Bytes → Source → Except IoError Bytes × Source
  | 0, got, s => (.ok got, s)
  | fuel + 1, got, s =>
    match s.read chunk with
    | (.error e, s) => (.error e, s)
    | (.ok [], s) => (.ok got, s)
    | (.ok more, s) => drain chunk fuel (got ++ more) s

def readAll (s : Source) : Except IoError Bytes × Source := drain 8192 (s.rest.length + 1) [] s

end Source

end ServiceCall
