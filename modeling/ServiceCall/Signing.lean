import ServiceCall.Request.Http

/-!
Signing: who signs an attempt. The signer is found for the address of the first attempt and kept;
a redirect to another address asks again, and a retry after a failed authentication brings its
own signer, or none.
-/

namespace ServiceCall

/-- Changes the request so that the service knows who sent it. -/
structure Signer (σ : Type) where
  sign : HttpRequest σ → Credentials → StateM σ (Except String Unit × HttpRequest σ)

namespace Signer

variable {σ : Type}

/-- Leaves the request as it is. -/
def idle : Signer σ := ⟨fun request _ world => ((.ok (), request), world)⟩

end Signer

abbrev SignerSource (σ : Type) := Uri → StateM σ (Option (Signer σ))

namespace SignerSource

variable {σ : Type}

/-- The same answer for every address. -/
def fixed (signer : Option (Signer σ)) : SignerSource σ := fun _ world => (signer, world)

end SignerSource

/-- How an attempt is repeated after a failed authentication. -/
structure AuthRetry (σ : Type) where
  signer : Option (Signer σ) := none
  endpoint : Option Uri := none

namespace AuthRetry

variable {σ : Type}

def inspect (a : AuthRetry σ) : String :=
  Inspect.record "AuthRetryParameters" [
    ("has_signer", Inspect.bool a.signer.isSome),
    ("endpoint", Inspect.option Uri.text a.endpoint)]

end AuthRetry

/-- Asked about failures that the service told, before any retry is considered. -/
abbrev AuthRetryRule (σ : Type) :=
  HttpRequest σ → ServiceError → StateM σ (Option (AuthRetry σ))

/-- What the last attempt left to do for the next one. -/
inductive Directive (σ : Type) where
  | start
  | retry (failure : Error)
  | redirect (target : Uri)
  | authRetry (parameters : AuthRetry σ)

namespace Directive

variable {σ : Type}

def isStart : Directive σ → Bool
  | .start => true
  | _ => false

end Directive

inductive BoundSigner (σ : Type) where
  | unbound
  | bound (address : Option Uri) (signer : Option (Signer σ))

namespace BoundSigner

variable {σ : Type}

instance : Inhabited (BoundSigner σ) := ⟨.unbound⟩

def signer? : BoundSigner σ → Option (Signer σ)
  | .unbound => none
  | .bound _ signer => signer

def address? : BoundSigner σ → Option Uri
  | .unbound => none
  | .bound address _ => address

/-- How the binding of the next attempt comes about. -/
inductive Plan (σ : Type) where
  | settled (binding : BoundSigner σ)
  | ask (address : Uri)

/-- An existing binding is kept, and an endpoint is asked for if there is none. -/
def keep (b : BoundSigner σ) (endpoint : Uri) : Plan σ :=
  match b with
  | .unbound => .ask endpoint
  | .bound address signer => .settled (.bound address signer)

def plan (b : BoundSigner σ) (endpoint : Uri) : Directive σ → Plan σ
  | .authRetry p => .settled (.bound p.endpoint p.signer)
  | .redirect target =>
    match b.address? with
    | some address => if address.same target then b.keep endpoint else .ask target
    | none => .ask target
  | .start => b.keep endpoint
  | .retry _ => b.keep endpoint

end BoundSigner

end ServiceCall
