import ServiceCall.Credentials
import ServiceCall.Duration
import ServiceCall.Parameters
import ServiceCall.Milestone

/-!
Requests as the caller describes them. All copies of a request share its root, under which the
metadata of their responses is kept.
-/

namespace ServiceCall

structure RootKey where
  id : Nat
  deriving DecidableEq, Repr

namespace RootKey

instance : Inhabited RootKey := ⟨⟨0⟩⟩

instance : LT RootKey := ⟨fun a b => a.id < b.id⟩

instance (a b : RootKey) : Decidable (a < b) := inferInstanceAs (Decidable (a.id < b.id))

/-- A root that no earlier request has. -/
def next (k : RootKey) : RootKey := ⟨k.id + 1⟩

theorem lt_next_iff {a b : RootKey} : a < b.next ↔ a < b ∨ a = b := by
  rw [show a = b ↔ a.id = b.id from ⟨congrArg id, congrArg mk⟩]
  exact Nat.lt_succ_iff_lt_or_eq

end RootKey

structure ServiceRequest (σ : Type) where
  root : RootKey
  service : String
  action : String
  version : Option String := none
  customHeaders : Table String String := {}
  customParameters : Parameters := {}
  credentials : Option (CredentialsSource σ) := none
  listener : Option (MilestoneListener σ) := none
  requestTimeout : Option Duration := none
  executionTimeout : Option Duration := none
  userAgentMarker : Option String := none

namespace ServiceRequest

variable {σ : Type}

instance : Inhabited (ServiceRequest σ) := ⟨{ root := default, service := "", action := "" }⟩

def withHeader (r : ServiceRequest σ) (name value : String) : ServiceRequest σ :=
  { r with customHeaders := r.customHeaders.insert name value }

def withParameter (r : ServiceRequest σ) (name value : String) : ServiceRequest σ :=
  { r with customParameters := r.customParameters.add name value }

def inspect (r : ServiceRequest σ) : String :=
  Inspect.record "OriginalRequest" [
    ("root_key", s!"CloneRootKey({r.root.id})"),
    ("service_name", Inspect.string r.service),
    ("action", Inspect.string r.action),
    ("version", Inspect.option Inspect.string r.version),
    ("custom_headers", Inspect.table Inspect.string r.customHeaders.entries),
    ("custom_parameters", Inspect.table (Inspect.list Inspect.string) r.customParameters.entries),
    ("has_credentials_override", Inspect.bool r.credentials.isSome),
    ("has_progress_listener", Inspect.bool r.listener.isSome),
    ("request_timeout", Inspect.option Duration.inspect r.requestTimeout),
    ("execution_timeout", Inspect.option Duration.inspect r.executionTimeout)]

end ServiceRequest

end ServiceCall
