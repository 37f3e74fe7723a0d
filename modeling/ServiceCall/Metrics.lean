import ServiceCall.Error
import ServiceCall.Table
import ServiceCall.Retry.Capacity

/-! Counters of one call and of all calls of a client. -/

namespace ServiceCall

structure CallMetrics where
  service : String := ""
  action : String := ""
  requests : Nat := 0
  throttles : Nat := 0
  capacityConsumed : Nat := 0
  /-- Whether the consumed capacity has left its 64 bits. -/
  overflowed : Bool := false
  exceptions : Nat := 0
  status : Option Nat := none
  deriving DecidableEq, Repr

namespace CallMetrics

instance : Inhabited CallMetrics := ⟨{}⟩

/-- The counter of consumed capacity has 64 bits. Of a sum that needs more it keeps what they hold,
and it stays noted that the sum did. -/
def addCapacity (m : CallMetrics) (cost : Nat) : CallMetrics :=
  let sum := m.capacityConsumed + cost
  { m with
    capacityConsumed := sum % (maxCount + 1)
    overflowed := m.overflowed || maxCount < sum }

/-- Text of metrics of which no time has been measured. -/
def inspect (m : CallMetrics) : String :=
  Inspect.record "RequestMetrics" [
    ("service_name", Inspect.string m.service),
    ("action", Inspect.string m.action),
    ("request_count", s!"{m.requests}"),
    ("retry_pause_time", "0ns"),
    ("credentials_request_time", "0ns"),
    ("signing_time", "0ns"),
    ("response_processing_time", "0ns"),
    ("http_request_time", "0ns"),
    ("throttle_exception_count", s!"{m.throttles}"),
    ("retry_capacity_consumed", s!"{m.capacityConsumed}"),
    ("exception_count", s!"{m.exceptions}"),
    ("status_code", Inspect.option (fun n : Nat => s!"{n}") m.status),
    ("client_execute_time", "0ns")]

end CallMetrics

structure ClientMetrics where
  started : Nat := 0
  succeeded : Nat := 0
  failed : Nat := 0
  attempts : Nat := 0
  retries : Nat := 0
  redirects : Nat := 0
  throttles : Nat := 0
  clockCorrections : Nat := 0
  refusedCapacity : Nat := 0
  inFlight : Nat := 0
  latencies : Nat := 0
  statuses : Table Nat Nat := {}
  errors : Table String Nat := {}

namespace ClientMetrics

instance : Inhabited ClientMetrics := ⟨{}⟩

def oneMore (n : Option Nat) : Nat := n.getD 0 + 1

def countStatus (m : ClientMetrics) (status : Option Nat) : ClientMetrics :=
  match status with
  | some code => { m with statuses := m.statuses.alter code oneMore }
  | none => m

def begun (m : ClientMetrics) : ClientMetrics :=
  { m with started := m.started + 1, inFlight := m.inFlight + 1 }

/-- A call that succeeded is counted under the status of its last response. -/
def completedOk (m : ClientMetrics) (status : Option Nat) : ClientMetrics :=
  ({ m with latencies := m.latencies + 1, succeeded := m.succeeded + 1 }).countStatus status

/-- A call that failed is counted under the status, if any, and the kind of its failure. -/
def completedError (m : ClientMetrics) (e : Error) : ClientMetrics :=
  let m := ({ m with latencies := m.latencies + 1, failed := m.failed + 1 }).countStatus e.status?
  { m with errors := m.errors.alter e.countKey oneMore }

def ended (m : ClientMetrics) : ClientMetrics := { m with inFlight := m.inFlight - 1 }

end ClientMetrics

end ServiceCall
