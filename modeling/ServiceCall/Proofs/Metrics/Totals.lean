import Mathlib.Data.String.Basic
import ServiceCall.Proofs.Attempts.Reasons
import ServiceCall.Proofs.Metrics.Reckoning
import ServiceCall.Proofs.Table

/-!
The totals of a client. What a client counts of all its calls is the sum of what each of them has
counted, whatever the calls came to and however many they were.
-/

namespace ServiceCall

variable {σ α : Type}

/-! ### Calls in a row -/

/-- What is known of a call that is over. -/
structure CallRecord where
  failure : Option Error
  metrics : CallMetrics

namespace CallRecord

def of (result : Except Error (Response α)) (metrics : CallMetrics) : CallRecord where
  failure :=
    match result with
    | .ok _ => none
    | .error e => some e
  metrics := metrics

def hasFailed (call : CallRecord) : Bool := call.failure.isSome

def hasFailedWithStatus (call : CallRecord) : Bool := call.failure.any fun e => e.status?.isSome

end CallRecord

def CallReport.toRecord (report : CallReport σ α) : CallRecord :=
  .of report.result report.context.metrics

/-- A client that had counted nothing yet has completed these calls and is in the state. What it
does beside its calls does not touch its metrics. -/
inductive Client.Completes (c : Client σ) : List CallRecord → ClientState → Prop
  | start {state : ClientState} (fresh : state.metrics = {}) : Completes c [] state
  | call {calls : List CallRecord} {state : ClientState} (before : Completes c calls state)
    (running : state.isShutDown = false) {α : Type} (handlers : Handlers σ α)
    (context : CallContext σ) (request : HttpRequest σ) (world : σ) {report : CallReport σ α}
    (reported : (c.call handlers context state request world).1 = report) :
    Completes c (calls ++ [report.toRecord]) report.client
  | refused {calls : List CallRecord} {state : ClientState} (before : Completes c calls state)
    (shut : state.isShutDown = true) {α : Type} (handlers : Handlers σ α)
    (context : CallContext σ) (request : HttpRequest σ) (world : σ) :
    Completes c calls (c.call handlers context state request world).1.client
  | meanwhile {calls : List CallRecord} {state state' : ClientState}
    (before : Completes c calls state) (same : state'.metrics = state.metrics) :
    Completes c calls state'

/-! ### One more of a kind -/

section

variable {κ : Type} [LT κ] [IsStrictTotalOrder κ (· < ·)] [DecidableEq κ] [DecidableLT κ]

theorem Table.Sorted.total_oneMore {t : Table κ Nat} (h : t.Sorted) (k : κ) :
    (t.alter k ClientMetrics.oneMore).total = t.total + 1 := by
  rw [Table.alter, h.total_insert, ← h.total_erase_add k, ClientMetrics.oneMore]
  omega

end

/-! ### Sums -/

/-- The metrics of a client that has completed these calls. -/
structure ClientMetrics.SumsUp (m : ClientMetrics) (calls : List CallRecord) : Prop where
  started : m.started = calls.length
  succeeded : m.succeeded = calls.countP fun call => !call.hasFailed
  failed : m.failed = calls.countP CallRecord.hasFailed
  latencies : m.latencies = calls.length
  inFlight : m.inFlight = 0
  errors : m.errors.total = m.failed
  errors_sorted : m.errors.Sorted
  statuses : m.statuses.total = m.succeeded + calls.countP CallRecord.hasFailedWithStatus
  statuses_sorted : m.statuses.Sorted
  attempts : m.attempts = (calls.map (·.metrics.requests)).sum
  throttles : m.throttles = (calls.map (·.metrics.throttles)).sum

namespace ClientMetrics

theorem sumsUp_nil : ({} : ClientMetrics).SumsUp [] where
  started := rfl
  succeeded := rfl
  failed := rfl
  latencies := rfl
  inFlight := rfl
  errors := rfl
  errors_sorted := Table.sorted_empty
  statuses := rfl
  statuses_sorted := Table.sorted_empty
  attempts := rfl
  throttles := rfl

/-- One more call has been counted. -/
theorem SumsUp.concat {m m' : ClientMetrics} {calls : List CallRecord} {call : CallRecord}
    (h : m.SumsUp calls) (started : m'.started = m.started + 1)
    (succeeded : m'.succeeded = m.succeeded + (!call.hasFailed).toNat)
    (failed : m'.failed = m.failed + call.hasFailed.toNat)
    (latencies : m'.latencies = m.latencies + 1) (inFlight : m'.inFlight = m.inFlight)
    (errors : m'.errors.total = m.errors.total + call.hasFailed.toNat)
    (errors_sorted : m'.errors.Sorted)
    (statuses : m'.statuses.total =
      m.statuses.total + (!call.hasFailed || call.hasFailedWithStatus).toNat)
    (statuses_sorted : m'.statuses.Sorted)
    (attempts : m'.attempts = m.attempts + call.metrics.requests)
    (throttles : m'.throttles = m.throttles + call.metrics.throttles) :
    m'.SumsUp (calls ++ [call]) := by
  have hcount : ∀ p : CallRecord → Bool,
      (calls ++ [call]).countP p = calls.countP p + (p call).toNat := by
    intro p
    rw [List.countP_append, List.countP_singleton]
    cases p call <;> rfl
  have hsum : ∀ f : CallRecord → Nat,
      ((calls ++ [call]).map f).sum = (calls.map f).sum + f call := by
    intro f
    rw [List.map_append, List.sum_append, List.map_singleton, List.sum_singleton]
  have hexclusive : (!call.hasFailed || call.hasFailedWithStatus).toNat =
      (!call.hasFailed).toNat + call.hasFailedWithStatus.toNat := by
    unfold CallRecord.hasFailed CallRecord.hasFailedWithStatus
    cases call.failure with
    | none => rfl
    | some e => simp
  constructor
  · rw [started, h.started, List.length_append, List.length_singleton]
  · rw [succeeded, h.succeeded, hcount]
  · rw [failed, h.failed, hcount]
  · rw [latencies, h.latencies, List.length_append, List.length_singleton]
  · rw [inFlight, h.inFlight]
  · rw [errors, h.errors, failed]
  · exact errors_sorted
  · rw [statuses, h.statuses, succeeded, hexclusive, hcount]
    omega
  · exact statuses_sorted
  · rw [attempts, h.attempts, hsum]
  · rw [throttles, h.throttles, hsum]

/-- What is counted of a failure beside its status. -/
theorem completedError_eq (m : ClientMetrics) (e : Error) :
    m.completedError e = { m with
      latencies := m.latencies + 1
      failed := m.failed + 1
      statuses := (m.countStatus e.status?).statuses
      errors := m.errors.alter e.countKey oneMore } := by
  unfold completedError
  cases e.status? <;> rfl

theorem countStatus_statuses {m : ClientMetrics} (h : m.statuses.Sorted) (status : Option Nat) :
    (m.countStatus status).statuses.Sorted ∧
      (m.countStatus status).statuses.total = m.statuses.total + status.isSome.toNat := by
  cases status with
  | none => exact ⟨h, rfl⟩
  | some code => exact ⟨h.insert _ _, h.total_oneMore code⟩

/-- A call is counted when it begins and when it ends. -/
theorem SumsUp.call {m conducted : ClientMetrics} {calls : List CallRecord}
    {metrics : CallMetrics} {status : Option Nat} {result : Except Error (Response α)}
    (h : m.SumsUp calls) (hcalls : conducted.ofCalls = m.begun.ofCalls)
    (hattempts : conducted.attempts = m.attempts + metrics.requests)
    (hthrottles : conducted.throttles = m.throttles + metrics.throttles)
    (hstatus : ∀ response, result = .ok response → status.isSome) :
    (conducted.completed status result).ended.SumsUp (calls ++ [.of result metrics]) := by
  simp only [ofCalls, begun, ClientMetrics.mk.injEq, true_and] at hcalls
  obtain ⟨hstarted, hsucceeded, hfailed, hinFlight, hlatencies, hstatuses, herrors⟩ := hcalls
  have hlast : conducted.inFlight - 1 = m.inFlight := by omega
  have hsorted : conducted.statuses.Sorted := hstatuses ▸ h.statuses_sorted
  cases result with
  | ok response =>
    obtain ⟨code, rfl⟩ := Option.isSome_iff_exists.mp (hstatus response rfl)
    apply h.concat
    case started => exact hstarted
    case succeeded => exact congrArg (· + 1) hsucceeded
    case failed => exact hfailed
    case latencies => exact congrArg (· + 1) hlatencies
    case inFlight => exact hlast
    case errors => exact congrArg Table.total herrors
    case errors_sorted => exact herrors ▸ h.errors_sorted
    case statuses =>
      rw [← hstatuses]
      exact hsorted.total_oneMore code
    case statuses_sorted => exact hsorted.insert _ _
    case attempts => exact hattempts
    case throttles => exact hthrottles
  | error e =>
    obtain ⟨hsorted', htotal⟩ := countStatus_statuses hsorted e.status?
    rw [show conducted.completed status (.error e) = _ from completedError_eq conducted e]
    apply h.concat
    case started => exact hstarted
    case succeeded => exact hsucceeded
    case failed => exact congrArg (· + 1) hfailed
    case latencies => exact congrArg (· + 1) hlatencies
    case inFlight => exact hlast
    case errors =>
      rw [← herrors]
      exact (herrors ▸ h.errors_sorted).total_oneMore e.countKey
    case errors_sorted => exact (herrors ▸ h.errors_sorted).insert _ _
    case statuses =>
      rw [← hstatuses]
      exact htotal
    case statuses_sorted => exact hsorted'
    case attempts => exact hattempts
    case throttles => exact hthrottles

/-- Why a call went on has been counted before it ends. -/
theorem completed_gains (m : ClientMetrics) (status : Option Nat)
    (result : Except Error (Response α)) :
    (m.completed status result).ended.retries = m.retries ∧
      (m.completed status result).ended.redirects = m.redirects := by
  cases result with
  | ok response => cases status <;> exact ⟨rfl, rfl⟩
  | error e =>
    rw [show m.completed status (.error e) = _ from completedError_eq m e]
    exact ⟨rfl, rfl⟩

end ClientMetrics

/-! ### Every client -/

/-- Without attempts that were not made there are as many attempts as endings. -/
theorem Ending.countP_isAttempt {endings : List Ending} (hunmade : .unmade ∉ endings)
    (hinterrupted : .interrupted ∉ endings) :
    endings.countP Ending.isAttempt = endings.length := by
  refine List.countP_eq_length.mpr fun ending hmem => ?_
  cases ending with
  | unmade => exact absurd hmem hunmade
  | interrupted => exact absurd hmem hinterrupted
  | _ => rfl

theorem Client.sumsUp_call {c : Client σ} (hm : c.config.metricsEnabled = true)
    {handlers : Handlers σ α} {context : CallContext σ} {state : ClientState}
    {request : HttpRequest σ} {world : σ} {calls : List CallRecord}
    (h : state.metrics.SumsUp calls) (hs : state.isShutDown = false) :
    let report := (c.call handlers context state request world).1
    report.client.metrics.SumsUp (calls ++ [report.toRecord]) := by
  intro report
  obtain ⟨conducted, gains, hreckoned, -, hstatus, hmetrics, hclient, -⟩ :=
    @Client.exists_reckoned σ α c hm handlers context state request world hs
  obtain ⟨k, hthrottles, hthrottles'⟩ := hreckoned.counted.throttles
  rw [hclient, CallReport.toRecord, hmetrics]
  refine h.call hreckoned.counted.ofCalls ?_ ?_ hstatus
  · rw [hreckoned.counted.attempts, hreckoned.counted.requests]
    exact congrArg (state.metrics.attempts + ·) (Nat.zero_add _).symm
  · rw [hthrottles', hthrottles]
    exact congrArg (state.metrics.throttles + ·) (Nat.zero_add _).symm

theorem Client.Completes.sumsUp {c : Client σ} (hm : c.config.metricsEnabled = true)
    {calls : List CallRecord} {state : ClientState} (h : c.Completes calls state) :
    state.metrics.SumsUp calls := by
  induction h with
  | start fresh =>
    rw [fresh]
    exact ClientMetrics.sumsUp_nil
  | call before running handlers context request world reported ih =>
    subst reported
    exact Client.sumsUp_call hm ih running
  | refused before shut handlers context request world ih =>
    rw [Client.call_of_isShutDown shut]
    exact ih
  | meanwhile before same ih =>
    rw [same]
    exact ih

/-- The metrics of a client add up, whatever its calls come to. It has counted every call that is
over, once as begun, once by its result and once by the time it took, and it counts none as
running; each failure stands under one kind, and each success, like each failure that tells one,
under its status; attempts and throttling failures are the sums of what the calls have counted.

A call has counted its attempts, and as failed those that ended with a failure. Each attempt but
the first one has its one reason: a retry, a redirect or an authentication retry. So there is at
most one attempt more than there are reasons, and exactly one more unless the call was stopped
where the next attempt would have been started or failed before the first one. -/
theorem metrics_add_up (c : Client σ) (hm : c.config.metricsEnabled = true) :
    (∀ calls state, c.Completes calls state →
      let m := state.metrics
      m.started = calls.length ∧ m.started = m.succeeded + m.failed ∧ m.started = m.latencies ∧
        m.failed = calls.countP CallRecord.hasFailed ∧ m.inFlight = 0 ∧
        m.errors.total = m.failed ∧
        m.statuses.total = m.succeeded + calls.countP CallRecord.hasFailedWithStatus ∧
        m.attempts = (calls.map (·.metrics.requests)).sum ∧
        m.throttles = (calls.map (·.metrics.throttles)).sum) ∧
    ∀ {α : Type} (handlers : Handlers σ α) context state request world,
      state.isShutDown = false →
      let report := (c.call handlers context state request world).1
      let endings := c.endings handlers context state request world
      let m := report.context.metrics
      let j := report.journal
      m.requests = j.started ∧ m.requests = endings.countP Ending.isAttempt ∧
        m.exceptions = endings.countP Ending.isException ∧ j.OneReasonEach ∧
        report.client.metrics.retries = state.metrics.retries + j.admitted ∧
        ∃ redirects, report.client.metrics.redirects = state.metrics.redirects + redirects ∧
          m.requests ≤ 1 + j.admitted + redirects + j.granted ∧
          (.unmade ∉ endings → .interrupted ∉ endings →
            m.requests = 1 + j.admitted + redirects + j.granted) := by
  refine ⟨fun calls state hcalls => ?_, fun handlers context state request world hs => ?_⟩
  · intro m
    have h : m.SumsUp calls := hcalls.sumsUp hm
    have hcompleted : m.started = m.succeeded + m.failed := by
      rw [h.started, h.succeeded, h.failed, Nat.add_comm,
        List.length_eq_countP_add_countP CallRecord.hasFailed]
      simp
    exact ⟨h.started, hcompleted, h.started.trans h.latencies.symm, h.failed, h.inFlight, h.errors,
      h.statuses, h.attempts, h.throttles⟩
  · intro report endings m j
    obtain ⟨conducted, gains, hreckoned, hlength, -, hmetrics, hclient, hgained⟩ :=
      @Client.exists_reckoned σ _ c hm handlers context state request world hs
    have hrequests : m.requests = endings.countP Ending.isAttempt := by
      rw [show m = _ from hmetrics, hreckoned.counted.requests]
      exact Nat.zero_add _
    have hexceptions : m.exceptions = endings.countP Ending.isException := by
      rw [show m = _ from hmetrics, hreckoned.counted.exceptions]
      exact Nat.zero_add _
    have hgains := conducted.client.metrics.completed_gains conducted.metrics.status report.result
    have hadmitted : j.admitted = gains.retries := hgained.admitted
    have hgranted : j.granted = gains.grants := hgained.granted
    have hle : endings.countP Ending.isAttempt ≤ endings.length := List.countP_le_length
    have hlength : endings.length = 1 + gains.retries + gains.redirects + gains.grants := by
      rw [show endings.length = _ from hlength, Gains.total]
      omega
    refine ⟨hrequests.trans hgained.started.symm, hrequests, hexceptions,
      c.call_oneReasonEach handlers context state request world, ?_, gains.redirects, ?_, ?_, ?_⟩
    · rw [hclient, hgains.1, hadmitted, hreckoned.counted.retries]
      rfl
    · rw [hclient, hgains.2, hreckoned.counted.redirects]
      rfl
    · rw [hrequests, hadmitted, hgranted, ← hlength]
      exact hle
    · intro hunmade hinterrupted
      rw [hrequests, hadmitted, hgranted, ← hlength]
      exact Ending.countP_isAttempt hunmade hinterrupted

open Rehearsal in
/-- One call that succeeds after a retry, and one that fails after a redirect. -/
theorem metrics_add_up_elsewhere :
    let first := rehearse client expired unsigned (client.start 0) paid
      [.timeout, .answering .ok {}]
    let second := rehearse client expired unsigned first.client paid [elsewhere]
    second.client.metrics.started = 2 ∧ second.client.metrics.latencies = 2 ∧
      second.client.metrics.attempts =
        first.context.metrics.requests + second.context.metrics.requests ∧
      first.context.metrics.requests = 2 ∧
      ∃ redirects, first.client.metrics.redirects = redirects ∧
        first.context.metrics.requests = 1 + first.journal.admitted + redirects +
          first.journal.granted := by
  intro first second
  obtain ⟨hclient, hcall⟩ := metrics_add_up client rfl
  have hrunning : first.client.isShutDown = false ∧ first.context.metrics.requests = 2 := by
    simp only [first, rehearse, Client.call, CallM.call, CallM.conduct, CallM.attempts_eq_turnsIn]
    decide +kernel
  obtain ⟨hstarted, -, hlatencies, -, -, -, -, hattempts, -⟩ := hclient
    [first.toRecord, second.toRecord] second.client <|
      .call (.call (.start rfl) rfl (handlers expired) unsigned paid
        { steps := [.timeout, .answering .ok {}] } rfl) hrunning.1 (handlers expired) unsigned paid
          { steps := [elsewhere] } rfl
  obtain ⟨-, -, -, -, -, redirects, hredirects, -, hequal⟩ := hcall (handlers expired) unsigned
    (client.start 0) paid { steps := [.timeout, .answering .ok {}] } rfl
  refine ⟨hstarted, hlatencies.symm.trans hstarted, hattempts, hrunning.2, redirects, ?_, ?_⟩
  · exact hredirects.trans (Nat.zero_add _)
  · exact hequal (by decide +kernel) (by decide +kernel)

end ServiceCall
