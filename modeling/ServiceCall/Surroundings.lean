import ServiceCall.Request.Http
import ServiceCall.Response.Http

/-!
What a call needs from outside: clocks, random numbers, the flags by which calls are cancelled,
and a transport. All of it acts on a state `σ` of which calls know nothing.
-/

namespace ServiceCall

/-! ### Cancellation -/

/-- Copies of a token stand for the same flag. -/
structure CancelToken where
  id : Nat
  deriving DecidableEq, Repr

/-- The flags that are set. No flag is ever taken back. -/
structure CancelBoard where
  raised : List CancelToken := []

namespace CancelBoard

def cancel (b : CancelBoard) (h : CancelToken) : CancelBoard := ⟨h :: b.raised⟩

def isCancelled (b : CancelBoard) (h : CancelToken) : Bool := b.raised.contains h

end CancelBoard

/-! ### Pauses -/

/-- How a pause goes that lasts until the clock shows the deadline: it looks at the flag, then at
the clock, and waits if neither ends it. Anything may happen before it wakes up, and it may wake
up early. The answer tells whether the flag has ended it. -/
inductive Sleeps {σ : Type} (raised : σ → Prop) (time : σ → Nat) (deadline : Nat) :
    σ → Bool → σ → Prop where
  | cancelled {world : σ} (set : raised world) : Sleeps raised time deadline world true world
  | elapsed {world : σ} (unset : ¬raised world) (late : deadline ≤ time world) :
    Sleeps raised time deadline world false world
  | wait {world woken last : σ} {answer : Bool} (unset : ¬raised world)
    (early : time world < deadline) (rest : Sleeps raised time deadline woken answer last) :
    Sleeps raised time deadline world answer last

namespace Sleeps

variable {σ : Type} {raised : σ → Prop} {time : σ → Nat} {deadline : Nat} {world last : σ}
  {answer : Bool}

theorem answer_iff (h : Sleeps raised time deadline world answer last) :
    answer = true ↔ raised last := by
  induction h with
  | cancelled set => exact ⟨fun _ => set, fun _ => rfl⟩
  | elapsed unset late => exact ⟨fun h => absurd h Bool.false_ne_true, fun h => absurd h unset⟩
  | wait unset early rest ih => exact ih

/-- A flag that is set ends a pause of any length before it begins. -/
theorem of_raised (h : Sleeps raised time deadline world answer last) (set : raised world) :
    answer = true ∧ last = world := by
  cases h with
  | cancelled => exact ⟨rfl, rfl⟩
  | elapsed unset => exact absurd set unset
  | wait unset => exact absurd set unset

end Sleeps

/-! ### Clocks and chance -/

structure Surroundings (σ : Type) where
  /-- Reads a clock that never goes back, in nanoseconds. -/
  now : StateM σ Nat
  /-- Reads the time of day, in nanoseconds since the start of 1970. -/
  timeOfDay : StateM σ Int
  isCancelled : CancelToken → StateM σ Bool
  /-- Waits, and tells whether it was cut short because the flag is set. -/
  pause : CancelToken → Duration → StateM σ Bool
  /-- Makes a name that no other call has. -/
  invocationId : StateM σ String
  random : StateM σ Nat

/-! ### Transport -/

/-- Carries a request to its service. The whole exchange may take as long as the limit says, if
there is one; a response of any status is no error. -/
structure Transport (σ : Type) where
  send : HttpRequest σ → Option Duration →
    StateM σ (Except TransportError HttpResponse × HttpRequest σ)
  /-- Runs once, when its client is shut down. -/
  shutdown : StateM σ Unit := fun world => ((), world)

end ServiceCall
