import ServiceCall.Request.Http
import ServiceCall.Response.Http

/-!
Hooks around a call. On the way out they run in the order in which they were registered, on the
way back in reverse.
-/

namespace ServiceCall

structure Hook (σ : Type) where
  beforeMarshal : ServiceRequest σ → StateM σ (ServiceRequest σ) := fun r world => (r, world)
  beforeSend : HttpRequest σ → StateM σ (HttpRequest σ) := fun r world => (r, world)
  beforeUnmarshal : HttpRequest σ → HttpResponse → StateM σ HttpResponse :=
    fun _ r world => (r, world)
  afterResponse : HttpRequest σ → Status → Headers → StateM σ Unit := fun _ _ _ world => ((), world)
  afterError : HttpRequest σ → Error → StateM σ Unit := fun _ _ world => ((), world)

namespace Hook

variable {σ : Type}

/-- Runs on what the caller described, before there is a request to send. -/
def beforeMarshalAll (hooks : List (Hook σ)) (r : ServiceRequest σ) : StateM σ (ServiceRequest σ) :=
  hooks.foldlM (fun r hook => hook.beforeMarshal r) r

def beforeSendAll (hooks : List (Hook σ)) (r : HttpRequest σ) : StateM σ (HttpRequest σ) :=
  hooks.foldlM (fun r hook => hook.beforeSend r) r

def beforeUnmarshalAll (hooks : List (Hook σ)) (request : HttpRequest σ) (r : HttpResponse) :
    StateM σ HttpResponse :=
  hooks.reverse.foldlM (fun r hook => hook.beforeUnmarshal request r) r

def afterResponseAll (hooks : List (Hook σ)) (request : HttpRequest σ) (status : Status)
    (headers : Headers) : StateM σ Unit :=
  hooks.reverse.forM fun hook => hook.afterResponse request status headers

def afterErrorAll (hooks : List (Hook σ)) (request : HttpRequest σ) (e : Error) : StateM σ Unit :=
  hooks.reverse.forM fun hook => hook.afterError request e

def inspectAll (hooks : List (Hook σ)) : String :=
  Inspect.record "HookPipeline" [("hooks", s!"{hooks.length}")]

end Hook

end ServiceCall
