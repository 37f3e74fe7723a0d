import ServiceCall.Body.Source

/-!
A stream that can be read again from a mark: what is taken from its source after the mark is
kept, up to a limit. Once more than that has been read the mark is lost, and what was kept with
it.
-/

namespace ServiceCall

structure Replay where
  source : Source
  kept : Bytes := []
  position : Nat := 0
  limit : Nat
  markValid : Bool := false

namespace Replay

/-- One call for at most `n` bytes, from what was kept as long as there is some left. -/
def read (r : Replay) (n : Nat) : Except IoError Bytes × Replay :=
  if r.position < r.kept.length then
    let got := (r.kept.drop r.position).take n
    (.ok got, { r with position := r.position + got.length })
  else
    match r.source.read n with
    | (.error e, source) => (.error e, { r with source })
    | (.ok got, source) =>
      if r.markValid then
        if r.limit < r.kept.length + got.length then
          (.ok got, { r with source, kept := [], position := 0, markValid := false })
        else
          let kept := r.kept ++ got
          (.ok got, { r with source, kept, position := kept.length })
      else (.ok got, { r with source })

/-- Sets the mark at the present position. -/
def mark (r : Replay) : Replay :=
  { r with kept := r.kept.drop r.position, position := 0, markValid := true }

def lostMark (r : Replay) : IoError :=
  ⟨.invalidInput, s!"resetting to invalid mark: more than {r.limit} bytes were read"⟩

/-- Goes back to the mark, if it is still valid. -/
def reset (r : Replay) : Except IoError Replay :=
  if r.markValid then .ok { r with position := 0 } else .error r.lostMark

/-- How many bytes are left, kept or in the source. -/
def left (r : Replay) : Nat := r.kept.length - r.position + r.source.rest.length

end Replay

end ServiceCall
