import ServiceCall.Surroundings
import ServiceCall.Text.Parts

/-!
Rehearsals: calls without a network. Answers come from a script, time passes only where the
script says so, and every collaborator writes down that it was asked.
-/

namespace ServiceCall.Rehearsal

/-- One exchange. With `reads` only so many bytes of the payload are taken. -/
structure Step where
  answer : Except TransportError HttpResponse
  reads : Option Nat := none
  lasts : Duration := .zero
  cancels : Bool := false

/-- A signer that leaves a mark, or one that does nothing. -/
inductive SignerScript where
  | idle
  | named (name : String) (lasts : Duration) (refusal : Option String) (addsParameter : Bool)

/-- What a rule for failed authentications answers. -/
structure Reply where
  signer : Option SignerScript := none
  endpoint : Option Uri := none

structure Stage where
  log : List String := []
  /-- Nanoseconds; a reading of the clock takes one. -/
  clock : Nat := 0
  timeOfDay : Int := 1760000000000000000
  seed : Nat := 88172645463325252
  board : CancelBoard := {}
  /-- The token of the call that is running. -/
  running : CancelToken := ⟨0⟩
  steps : List Step := []
  /-- What the exchanges took of the payloads. -/
  payloads : List (Except IoError Bytes) := []
  /-- The answers that each rule for failed authentications has left, by its number. -/
  replies : Table Nat (List (Option Reply)) := {}
  shutdowns : Nat := 0
  calls : Nat := 0

abbrev Act := StateM Stage

def say (line : String) : Act Unit := modify fun s => { s with log := s.log ++ [line] }

def pass (d : Duration) : Act Unit := modify fun s => { s with clock := s.clock + d.nanos }

def cancelRunning : Act Unit := modify fun s => { s with board := s.board.cancel s.running }

/-! ### Surroundings -/

def nextSeed (n : Nat) : Nat := (n * 6364136223846793005 + 1442695040888963407) % Nat.pow 2 64

def random : Act Nat := do
  modify fun s => { s with seed := nextSeed s.seed }
  return (← get).seed / Nat.pow 2 20

def readClock : Act Nat := do
  pass ⟨1⟩
  return (← get).clock

def isCancelled (h : CancelToken) : Act Bool := return (← get).board.isCancelled h

def pause (h : CancelToken) (d : Duration) : Act Bool := do
  let cancelled ← isCancelled h
  unless cancelled do pass d
  return cancelled

/-- Calls are numbered in the form of random identifiers. -/
def identifier (n : Nat) : String :=
  let digits := Nat.toDigits 10 n
  "00000000-0000-4000-8000-" ++ String.ofList (List.replicate (12 - digits.length) '0' ++ digits)

/-- Whether a text has the form of a random identifier: five groups of digits to the base 16,
without capitals, of which two say the version and the variant. -/
def isIdentifier (text : String) : Bool :=
  let isDigit (c : Char) := c.isDigit || ('a' ≤ c && c ≤ 'f')
  let isVariant (c : Char) := c = '8' || c = '9' || c = 'a' || c = 'b'
  let groups := Parts.split (· = '-') text.toList
  groups.map List.length = [8, 4, 4, 4, 12] && groups.all (·.all isDigit)
    && (groups.getD 2 []).head? = some '4' && ((groups.getD 3 []).head?.any isVariant)

def newIdentifier : Act String := do
  modify fun s => { s with calls := s.calls + 1 }
  return identifier (← get).calls

def surroundings : Surroundings Stage where
  now := readClock
  timeOfDay := return (← get).timeOfDay
  isCancelled := isCancelled
  pause := pause
  invocationId := newIdentifier
  random := random

/-! ### Transport -/

def exhausted : Step where
  answer := .error (.io .other "script exhausted")

def nextStep : Act Step := do
  let steps := (← get).steps
  modify fun s => { s with steps := steps.tail }
  return steps.headD exhausted

/-- Reads the payload, waits, and answers; a payload that cannot be read is not sent. -/
def perform (step : Step) (r : HttpRequest Stage) :
    Act (Except TransportError HttpResponse × HttpRequest Stage) := do
  let (got, body) := match step.reads with
    | some n => r.body.readUpTo n
    | none => r.body.readRemaining
  modify fun s => { s with payloads := s.payloads ++ [got] }
  match got with
  | .error e => return (.error (.ofIo e), { r with body })
  | .ok _ =>
    pass step.lasts
    if step.cancels then cancelRunning
    return (step.answer, { r with body })

def transport : Transport Stage where
  send r _ := do
    say "send"
    perform (← nextStep) r
  shutdown := do
    say "transport:shutdown"
    modify fun s => { s with shutdowns := s.shutdowns + 1 }

end ServiceCall.Rehearsal
