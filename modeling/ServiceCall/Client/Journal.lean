import ServiceCall.Retry.Policy
import ServiceCall.Signing
import ServiceCall.Surroundings

/-!
Journals: what a call did and asked, in order. A journal tells every question to a collaborator
and every answer on which the course of the call depends.
-/

namespace ServiceCall

inductive HookPhase where
  | beforeSend | beforeUnmarshal | afterResponse | afterError
  deriving DecidableEq, Repr

inductive Event (σ : Type) where
  | milestone (event : Milestone)
  /-- A hook ran; `position` is its place in the order of registration. -/
  | hook (phase : HookPhase) (position : Nat)
  | clockRead (now : Nat)
  | cancelRead (cancelled : Bool)
  | attemptStarted (number : Nat) (directive : Directive σ)
  | credentialsAsked
  | backoffAsked (failed : FailedAttempt σ) (delay : Duration)
  | paused (wait : Duration) (cancelled : Bool)
  | signerAsked (address : Uri)
  | signerBound (binding : BoundSigner σ)
  | signing (signer : Signer σ) (clockOffset : Int) (request : HttpRequest σ)
  | dispatched (request : HttpRequest σ) (limit : Option Duration) (inFlight : Nat)
  | answered (status : Status)
  | handled (response : HttpResponse)
  /-- A failure of the clock, with the header fields of its response and the local time. -/
  | clockSkewed (headers : Headers) (failure : ServiceError) (now : Int)
  | authAsked (failure : ServiceError) (granted : Bool)
  | capacityTaken (cost : Nat)
  | capacityRefused (cost : Nat)
  | capacityReturned (count : Nat)
  | conditionAsked (failed : FailedAttempt σ) (admitted : Bool)

abbrev Journal (σ : Type) := List (Event σ)

namespace Journal

variable {σ : Type}

/-- The requests that went to the transport, with their time limits and the number of calls
that were running then. -/
def dispatches (j : Journal σ) : List (HttpRequest σ × Option Duration × Nat) :=
  j.filterMap fun
    | .dispatched request limit inFlight => some (request, limit, inFlight)
    | _ => none

def milestones (j : Journal σ) : List Milestone :=
  j.filterMap fun
    | .milestone event => some event
    | _ => none

end Journal

end ServiceCall
