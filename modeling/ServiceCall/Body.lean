import ServiceCall.Body.Replay
import ServiceCall.Text.Quoted

/-!
Payloads of requests. All but plain streams can be sent again: payloads in memory and sources
that can seek go back to their mark, buffered streams as long as their mark is valid.
-/

namespace ServiceCall

inductive Body where
  | empty
  | bytes (data : Bytes) (position mark : Nat)
  | seekable (source : Source) (mark : Nat)
  | buffered (replay : Replay)
  | stream (source : Source)

namespace Body

instance : Inhabited Body := ⟨.empty⟩

def ofBytes (data : Bytes) : Body := .bytes data 0 0

def ofString (text : String) : Body := ofBytes (Bytes.ofString text)

def isEmpty : Body → Bool
  | .empty => true
  | .bytes data _ _ => data.isEmpty
  | _ => false

/-- Whether the payload can be sent again. -/
def isRepeatable : Body → Bool
  | .stream _ => false
  | _ => true

/-- Whether the mark is set anew for every attempt. -/
def isRemarked : Body → Bool
  | .buffered _ => true
  | _ => false

/-- How many bytes of a payload in memory are left. -/
def length? : Body → Option Nat
  | .empty => some 0
  | .bytes data position _ => some (data.length - position)
  | _ => none

def mark : Body → Except IoError Body
  | .empty => .ok .empty
  | .bytes data position _ => .ok (.bytes data position position)
  | .seekable source _ => source.tell.map (.seekable source)
  | .buffered replay => .ok (.buffered replay.mark)
  | .stream source => .ok (.stream source)

def reset : Body → Except IoError Body
  | .empty => .ok .empty
  | .bytes data _ mark => .ok (.bytes data mark mark)
  | .seekable source mark => (source.seek mark).map (.seekable · mark)
  | .buffered replay => replay.reset.map .buffered
  | .stream source => .ok (.stream source)

/-- One call for at most `n` bytes. -/
def read (b : Body) (n : Nat) : Except IoError Bytes × Body :=
  match b with
  | .empty => (.ok [], .empty)
  | .bytes data position mark =>
    let got := (data.drop position).take n
    (.ok got, .bytes data (position + got.length) mark)
  | .seekable source mark => (source.read n).map id (.seekable · mark)
  | .buffered replay => (replay.read n).map id .buffered
  | .stream source => (source.read n).map id .stream

/-- At most how many bytes are left. -/
def left : Body → Nat
  | .empty => 0
  | .bytes data position _ => data.length - position
  | .seekable source _ => source.rest.length
  | .buffered replay => replay.left
  | .stream source => source.rest.length

def drain : Nat → Bytes → Body → Except IoError Bytes × Body
  | 0, got, b => (.ok got, b)
  | fuel + 1, got, b =>
    match b.read 8192 with
    | (.error e, b) => (.error e, b)
    | (.ok [], b) => (.ok got, b)
    | (.ok more, b) => drain fuel (got ++ more) b

/-- The rest of the payload; a failure loses what was read before it. -/
def readRemaining (b : Body) : Except IoError Bytes × Body := drain (b.left + 1) [] b

def collect : Nat → Nat → Bytes → Body → Except IoError Bytes × Body
  | 0, _, got, b => (.ok got, b)
  | fuel + 1, n, got, b =>
    if n ≤ got.length then (.ok got, b)
    else
      match b.read (n - got.length) with
      | (.error e, b) => (.error e, b)
      | (.ok [], b) => (.ok got, b)
      | (.ok more, b) => collect fuel n (got ++ more) b

/-- The next `n` bytes, by as many calls as it takes; fewer only at the end. -/
def readUpTo (b : Body) (n : Nat) : Except IoError Bytes × Body := collect n n [] b

def kindName : Body → String
  | .empty => "empty"
  | .bytes .. => "bytes"
  | .seekable .. => "seekable"
  | .buffered _ => "buffered_stream"
  | .stream _ => "stream"

def inspect (b : Body) : String :=
  Inspect.record "RequestBody" [
    ("kind", Inspect.string b.kindName),
    ("content_length", Inspect.option (fun n : Nat => s!"{n}") b.length?)]

end Body

end ServiceCall
