import ServiceCall.Proofs.Attempts.Redirection
import ServiceCall.Proofs.Call.Closing
import ServiceCall.Proofs.Call.Parallel

/-!
Ample capacity. A pool that holds what all retries of a call may cost is as good as one without
limit: a call asks for the cost of a retry at most as often as its limits let it retry, whatever
redirects and authentications come between, so it is never refused.
-/

namespace ServiceCall

variable {σ α : Type} {Same : σ → σ → Prop}

/-! ### After failures -/

theorem Twins.countFailedAttempt {cost n : Nat} {run run' : Run σ}
    (h : Twins Same cost n run run') :
    Twins Same cost n (CallM.countFailedAttempt run) (CallM.countFailedAttempt run') := by
  refine { h with metrics := ?_ }
  simp only [CallM.countFailedAttempt, h.metrics]

/-- Both calls have taken capacity or none, and give back the same. -/
theorem Twins.giveUp {cost n : Nat} {run run' : Run σ} (h : Twins Same cost n run run')
    (s : CallSetting σ α) : Twins Same cost n (CallM.giveUp s run) (CallM.giveUp s run') := by
  have hback : Twins Same cost n (CallM.giveCapacityBack s run) (CallM.giveCapacityBack s run') := by
    unfold CallM.giveCapacityBack
    rw [h.tookCapacity]
    split
    · refine { h.release s.retryCost with tookCapacity := rfl, journal := ?_ }
      rw [List.map_append, List.map_append, h.journal]
    · exact h
  unfold CallM.giveUp CallM.rewind
  rw [hback.request.body]
  split
  · split
    · next body _ =>
      exact { hback with request := hback.request.withBody body }
    · exact hback
  · exact hback

/-! ### Turns -/

namespace Turn

/-- One attempt has been made, and whoever is to sign the next one does not look at the
difference. -/
def Fine {l : CallLimits} {t : Tally} (Same : σ → σ → Prop) : Turn σ α l t → Prop
  | .finished _ => True
  | .again tally directive _ => tally.attempts = t.attempts + 1 ∧ directive.Fine Same

def Alike {l : CallLimits} {t : Tally} (Same : σ → σ → Prop) (turn turn' : Turn σ α l t) : Prop :=
  turn' = turn ∧ turn.Fine Same

end Turn

/-! ### Paying for a retry -/

/-- As long as the first pool holds enough, both pools grant the cost. -/
theorem Twins.acquire {cost n : Nat} {run run' : Run σ} (h : Twins Same cost (n + 1) run run') :
    (run.client.pool.acquire cost).1 = true ∧ (run'.client.pool.acquire cost).1 = true ∧
      Twins Same cost n
        { run with client := { run.client with pool := (run.client.pool.acquire cost).2 } }
        { run' with client := { run'.client with pool := (run'.client.pool.acquire cost).2 } } := by
  obtain ⟨maximum, available, hholds, hample⟩ := h.pool
  rw [Nat.succ_mul] at hample
  obtain ⟨htaken, hleft⟩ := hholds.acquire_of_le (Nat.le_of_add_left_le hample)
  have hunlimited : run'.client.pool.acquire cost = (true, .unlimited) := by
    rw [h.client]
    rfl
  refine ⟨htaken, congrArg Prod.fst hunlimited, { h with client := ?_, pool := ?_ }⟩
  · rw [hunlimited, h.client]
  · exact ⟨maximum, _, hleft, Nat.le_sub_of_add_le hample⟩

namespace CallM

variable {s : CallSetting σ α} {cost n : Nat}

/-- What a granted question to the pool does beside. -/
def payFor (s : CallSetting σ α) : CallM σ Bool := do
  record (.capacityTaken s.retryCost)
  modify fun run => { run with tookCapacity := true }
  count fun m => m.addCapacity s.retryCost
  return true

theorem takeCapacity_eq_payFor {run : Run σ}
    (h : (run.client.pool.acquire s.retryCost).1 = true) :
    takeCapacity s run = payFor s { run with client := { run.client with
      pool := (run.client.pool.acquire s.retryCost).2 } } := by
  unfold takeCapacity payFor
  refine (bind_of_ok (rfl : (get : CallM σ (Run σ)) run = _)).trans ?_
  dsimp only
  rw [h]
  rfl

theorem payFor_inStep : InStep Same cost n Eq (payFor s) (payFor s) :=
  .thenEq (.record rfl) fun _ =>
    .thenEq (.update fun _ _ hruns => { hruns with tookCapacity := rfl }) fun _ =>
      .thenEq (.count _) fun _ => .pure rfl

/-- What was held for a retry is taken. -/
theorem takeCapacity_matches :
    Matches (Twins Same s.retryCost (n + 1)) (Twins Same s.retryCost n) Eq (takeCapacity s)
      (takeCapacity s) := by
  refine ⟨fun run run' hruns => ?_⟩
  obtain ⟨htaken, htaken', hleft⟩ := hruns.acquire
  rw [takeCapacity_eq_payFor htaken, takeCapacity_eq_payFor htaken']
  exact payFor_inStep.ends _ _ hleft

variable (hs : s.client.Indifferent Same s.handlers s.context)

include hs

theorem admits_matches {o o' : Origin} (ho : o.Alike o') (failure : Error) (number : Nat) :
    Matches (Twins Same s.retryCost (n + 1)) (Twins Same s.retryCost n) Eq
      (admits s o failure number) (admits s o' failure number) := by
  have hask : ∀ m, InStep Same s.retryCost m Eq
      (do
        askCondition s {
          request := (← request).subject
          error := failure
          attempts := number
          retries := number - 1
          repeatable := o.repeatable })
      (do
        askCondition s {
          request := (← request).subject
          error := failure
          attempts := number
          retries := number - 1
          repeatable := o.repeatable }) := by
    refine fun m => .request fun r r' hr => ?_
    rw [hr.subject]
    exact .thenEq (.perform (hs.condition _)) fun _ => .thenEq (.record rfl) fun _ => .pure rfl
  unfold admits
  rw [ho.repeatable]
  refine .ite (.lower (.pure rfl) (Nat.le_succ n)) (.ite ((hask _).lower (Nat.le_succ n)) ?_)
  refine takeCapacity_matches.bind ?_ fun _ _ h => h
  rintro taken _ rfl
  exact .ite (hask n) (.pure rfl)

/-! ### Turns together -/

/-- Only a retry that is granted costs what was held for it. -/
theorem conclude_matches {o o' : Origin} (ho : o.Alike o') (tally : Tally)
    {outcome : Outcome σ α (decide (tally.authRetries < s.limits.authRetries))}
    (houtcome : outcome.Fine Same) :
    Matches (Twins Same s.retryCost (s.limits.retries - tally.attempts))
      (Twins Same s.retryCost (s.limits.retries - (tally.attempts + 1))) (Turn.Alike Same)
      (conclude s o tally outcome) (conclude s o' tally outcome) := by
  have hless : s.limits.retries - (tally.attempts + 1) ≤ s.limits.retries - tally.attempts :=
    Nat.sub_le_sub_left (Nat.le_succ _) _
  cases outcome with
  | success response => exact .lower (.pure ⟨rfl, trivial⟩) hless
  | redirect target =>
    simp only [conclude]
    split
    · refine .lower (.thenEq (.countForClient s _) fun _ => .pure ⟨rfl, ?_⟩) hless
      exact ⟨rfl, trivial⟩
    · refine .lower (throwNamed_inStep fun r r' hr => ?_) hless
      rw [hr.method, hr.loggedUri]
  | authRetry parameters allowed => exact .lower (.pure ⟨rfl, rfl, houtcome⟩) hless
  | retryable failure =>
    simp only [conclude]
    split
    · next h =>
      have hone : s.limits.retries - tally.attempts =
          s.limits.retries - (tally.attempts + 1) + 1 := by omega
      rw [hone]
      refine (Matches.count _).bind (fun _ _ _ => ?_) fun _ _ h => h.mono (Nat.le_succ _)
      refine (admits_matches hs ho failure _).bind ?_ fun _ _ h => h
      rintro admitted _ rfl
      refine .ite (.thenEq (.countForClient s _) fun _ => .pure ⟨rfl, ?_⟩) (.throw _)
      exact ⟨rfl, trivial⟩
    · exact .lower (.thenEq (.count _) fun _ => .throw _) hless

theorem turn_matches {o o' : Origin} (ho : o.Alike o') (tally : Tally) {directive : Directive σ}
    (hd : directive.Fine Same) :
    Matches (Twins Same s.retryCost (s.limits.retries - tally.attempts))
      (Twins Same s.retryCost (s.limits.retries - (tally.attempts + 1))) (Turn.Alike Same)
      (turn s o tally directive) (turn s o' tally directive) := by
  have hless : s.limits.retries - (tally.attempts + 1) ≤ s.limits.retries - tally.attempts :=
    Nat.sub_le_sub_left (Nat.le_succ _) _
  have hturn : ∀ o, turn s o tally directive = (do
      checkInterruption s
      startAttempt s directive (tally.attempts + 1)
      prepare o directive
      onFailure (attempt s directive (tally.attempts + 1)) countFailedAttempt) >>=
        conclude s o tally := by
    intro o
    simp only [turn, bind_assoc]
  rw [hturn, hturn]
  refine Matches.bind (.thenEq (checkInterruption_inStep hs) fun _ =>
    .thenEq (startAttempt_inStep directive _) fun _ => .thenEq (prepare_inStep ho directive)
      fun _ => .onFailure (attempt_inStep hs hd _) ?_) ?_ fun _ _ h => h.mono hless
  · exact fun _ _ hruns => hruns.countFailedAttempt
  · rintro _ outcome ⟨rfl, houtcome⟩
    exact conclude_matches hs ho tally houtcome

/-- The turns of a call take no more than what was held for its retries. -/
theorem turns_matches {o o' : Origin} (ho : o.Alike o') (tally : Tally) {directive : Directive σ}
    (hd : directive.Fine Same) :
    Matches (Twins Same s.retryCost (s.limits.retries - tally.attempts))
      (Twins Same s.retryCost 0) Eq (turns s o tally directive) (turns s o' tally directive) := by
  -- On what is left of the tally; each turn makes one attempt, which may be a retry.
  induction hleft : tally.left s.limits using Nat.strongRecOn generalizing tally directive with
  | _ left ih =>
    rw [turns, turns]
    refine (turn_matches hs ho tally hd).bind ?_ fun _ _ h => h.mono (Nat.zero_le _)
    rintro _ turn ⟨rfl, hturn⟩
    cases turn with
    | finished response => exact .lower (.pure rfl) (Nat.zero_le _)
    | again tally' directive' less =>
      rw [← hturn.1]
      exact ih _ (hleft ▸ less) tally' hturn.2 rfl

/-! ### Calls -/

omit hs in
theorem markOrigin_inStep :
    InStep Same cost n Origin.Alike (markOrigin : CallM σ Origin) markOrigin := by
  unfold markOrigin
  refine .request fun r r' hr => ?_
  have ho : (Origin.of r).Alike (.of r') :=
    ⟨hr.headers, hr.parameters, congrArg Body.isRepeatable hr.body⟩
  rw [hr.body]
  exact .ite (.pure ho) (.thenEq markBody_inStep fun _ => .pure ho)

theorem attempts_matches :
    Matches (Twins Same s.retryCost s.limits.retries) (Twins Same s.retryCost 0) Eq (attempts s)
      (attempts s) := by
  rw [attempts_eq_markOrigin]
  have hstart : (Directive.start : Directive σ).Fine Same := trivial
  exact markOrigin_inStep.bind (fun o o' ho => turns_matches hs ho {} hstart)
    fun _ _ h => h.mono (Nat.zero_le _)

theorem conduct_matches :
    Matches (Twins Same s.retryCost s.limits.retries) (Twins Same s.retryCost 0) Eq (conduct s)
      (conduct s) := by
  have hsetOut : InStep Same s.retryCost s.limits.retries Eq (setOut s) (setOut s) :=
    .thenEq (enrich_inStep hs) fun _ => beforeSend_inStep hs
  rw [conduct_eq_setOut]
  refine hsetOut.bind (fun _ _ _ => ?_) fun _ _ h => h.mono (Nat.zero_le _)
  exact (attempts_matches hs).onFailure fun _ _ hruns => hruns.giveUp s

/-- A call goes the same way with either pool, if the first one holds enough. -/
theorem call_matches :
    Matches (Twins Same s.retryCost s.limits.retries) (Twins Same s.retryCost 0) Eq (call s)
      (call s) := by
  unfold call
  refine .request fun r r' hr => ?_
  rw [hr.subject]
  refine (begin_inStep hr.listener).bind (fun _ _ _ => ?_) fun _ _ h => h.mono (Nat.zero_le _)
  refine (conduct_matches hs).settle.bind ?_ fun _ _ h => h
  rintro result _ rfl
  exact .thenEq (finish_inStep hs hr.listener result) fun _ => .thenEq (collect_inStep hs) fun _ =>
    .thenEq (.countForClient s _) fun _ => .pure rfl

end CallM

/-! ### Clients that do not throttle -/

/-- The client does not throttle retries. -/
def Client.unthrottled (c : Client σ) : Client σ :=
  { c with config := { c.config with throttledRetries := false } }

def CallSetting.unthrottled (s : CallSetting σ α) : CallSetting σ α :=
  { s with client := s.client.unthrottled }

namespace CallM

variable (s : CallSetting σ α)

theorem conclude_unthrottled (o : Origin) (tally : Tally)
    (outcome : Outcome σ α (decide (tally.authRetries < s.limits.authRetries))) :
    conclude s.unthrottled o tally outcome = conclude s o tally outcome := by
  cases outcome <;> rfl

theorem turn_unthrottled (o : Origin) (tally : Tally) (directive : Directive σ) :
    turn s.unthrottled o tally directive = turn s o tally directive := by
  have hconclude : conclude s.unthrottled o tally = conclude s o tally :=
    funext fun outcome => conclude_unthrottled s o tally outcome
  unfold turn
  rw [hconclude]
  rfl

theorem turnsIn_unthrottled (o : Origin) (n : Nat) (tally : Tally) (directive : Directive σ) :
    turnsIn s.unthrottled o n tally directive = turnsIn s o n tally directive := by
  induction n generalizing tally directive with
  | zero => rfl
  | succ n ih =>
    rw [turnsIn, turnsIn, turn_unthrottled]
    congr 1
    funext t
    cases t with
    | finished response => rfl
    | again tally directive less => exact ih tally directive

/-- A call looks at its pool and never at the setting from which the pool was made. -/
theorem call_unthrottled : call s.unthrottled = call s := by
  have hattempts : attempts s.unthrottled = attempts s := by
    simp only [attempts_eq_turnsIn, turnsIn_unthrottled]
    rfl
  have hconduct : conduct s.unthrottled = conduct s := by
    unfold conduct
    rw [hattempts]
    rfl
  unfold call
  rw [hconduct]
  rfl

end CallM

/-! ### Reports -/

/-- What is decided about attempts, retries and pauses. -/
def Event.isDecision : Event σ → Bool
  | .attemptStarted .. | .backoffAsked .. | .paused .. | .authAsked .. | .capacityTaken ..
  | .capacityRefused .. | .conditionAsked .. => true
  | _ => false

namespace Journal

def decisions (j : Journal σ) : Journal σ := j.filter Event.isDecision

variable {j j' : Journal σ}

theorem decisions_masked (j : Journal σ) : decisions (j.map Event.masked) = j.decisions := by
  induction j with
  | nil => rfl
  | cons e j ih =>
    rw [decisions, decisions] at ih ⊢
    rw [List.map_cons, List.filter_cons, List.filter_cons, ih]
    cases e <;> rfl

theorem milestones_masked (j : Journal σ) : milestones (j.map Event.masked) = j.milestones := by
  rw [milestones, milestones, List.filterMap_map]
  congr 1
  funext e
  cases e <;> rfl

theorem dispatches_masked (j : Journal σ) :
    dispatches (j.map Event.masked) =
      j.dispatches.map fun (r, limit, inFlight) => (r.masked, limit, inFlight) := by
  rw [dispatches, dispatches, List.filterMap_map, List.map_filterMap]
  congr 1
  funext e
  cases e <;> rfl

end Journal

/-- The reports differ in nothing but the pool and what requests tell of it. -/
structure CallReport.Alike (Same : σ → σ → Prop) (report report' : CallReport σ α) : Prop where
  result : report'.result = report.result
  request : report.request.Alike Same report'.request
  metrics : report'.context.metrics = report.context.metrics
  tookCapacity : report'.context.tookCapacity = report.context.tookCapacity
  journal : report'.journal.map Event.masked = report.journal.map Event.masked
  client : report'.client = { report.client with pool := .unlimited }

namespace Client

variable {c : Client σ} {handlers : Handlers σ α} {context : CallContext σ} {state : ClientState}
  {request : HttpRequest σ} {world world' : σ} {maximum available : Nat}

/-- The report of a call that has ended so. -/
def reportOf (context : CallContext σ) :
    EStateM.Result Error (Run σ) (Except Error (Response α)) → CallReport σ α × σ
  | .ok result run =>
    ({ result, request := run.request
       context := { context with metrics := run.metrics, tookCapacity := run.tookCapacity }
       client := run.client, journal := run.journal }, run.world)
  | .error e run =>
    ({ result := .error e, request := run.request
       context := { context with metrics := run.metrics, tookCapacity := run.tookCapacity }
       client := run.client, journal := run.journal }, run.world)

theorem call_eq_reportOf (h : state.isShutDown = false) :
    c.call handlers context state request world =
      reportOf context (CallM.call (c.settingAt handlers context request world)
        (c.runAt state request world)) := by
  rw [Client.call, if_neg (Bool.eq_false_iff.mp h)]
  rfl

theorem reportOf_alike {cost n : Nat}
    {ended ended' : EStateM.Result Error (Run σ) (Except Error (Response α))}
    (h : CallM.EndAlike (Twins Same cost n) Eq ended ended') :
    CallReport.Alike Same (reportOf context ended).1 (reportOf context ended').1 := by
  cases h with
  | ok hresult hruns =>
    exact ⟨hresult.symm, hruns.request, hruns.metrics, hruns.tookCapacity, hruns.journal,
      hruns.client⟩
  | error hruns =>
    exact ⟨rfl, hruns.request, hruns.metrics, hruns.tookCapacity, hruns.journal, hruns.client⟩

/-- The two calls start as a pair of runs. -/
theorem run_twins (hrequest : request.Alike Same request) (hworld : Same world world')
    (hpool : state.pool.Holds maximum available) {cost n : Nat} (hample : n * cost ≤ available) :
    Twins Same cost n (Client.run state request world)
      (Client.run { state with pool := .unlimited } request world') where
  world := hworld
  request := hrequest
  metrics := rfl
  tookCapacity := rfl
  binding := rfl
  signer := fun _ h => by cases h
  lastBackoff := rfl
  journal := rfl
  client := rfl
  pool := ⟨maximum, available, hpool, hample⟩

theorem call_alike (hc : c.Indifferent Same handlers context)
    (hrequest : request.Alike Same request) (hworld : Same world world')
    (hpool : state.pool.Holds maximum available)
    (hample : c.config.maxRetries * c.config.capacityPolicy.cost ≤ available) :
    CallReport.Alike Same (c.call handlers context state request world).1
      (c.unthrottled.call handlers context { state with pool := .unlimited } request world').1 := by
  by_cases hshut : state.isShutDown = true
  · have hshut' : { state with pool := .unlimited }.isShutDown = true := hshut
    rw [call_of_isShutDown hshut, call_of_isShutDown hshut']
    exact ⟨rfl, hrequest, rfl, rfl, rfl, rfl⟩
  · have hopen : state.isShutDown = false := Bool.eq_false_iff.mpr hshut
    have hopen' : { state with pool := .unlimited }.isShutDown = false := hopen
    obtain ⟨hnow, hleft⟩ := hc.now world world' hworld
    have hsetting : c.unthrottled.settingAt handlers context request world' =
        (c.settingAt handlers context request world).unthrottled := by
      unfold settingAt
      rw [show (c.unthrottled.surroundings.now world').1 = _ from hnow]
      rfl
    rw [call_eq_reportOf hopen, call_eq_reportOf hopen', hsetting, CallM.call_unthrottled]
    refine reportOf_alike ((CallM.call_matches hc).ends _ _ ?_)
    exact run_twins hrequest hleft hpool hample

end Client

/-- A pool that holds the cost of all retries that a call may make is as good as one that is
unlimited because retries are not throttled, if nobody looks at what requests tell of it. -/
theorem ample_capacity_unnoticed {c : Client σ} {handlers : Handlers σ α}
    {context : CallContext σ} (hc : c.Indifferent Same handlers context) {request : HttpRequest σ}
    (hrequest : request.Alike Same request) {world world' : σ} (hworld : Same world world')
    {state : ClientState} {maximum available : Nat} (hpool : state.pool.Holds maximum available)
    (hample : c.config.maxRetries * c.config.capacityPolicy.cost ≤ available) :
    let limited := (c.call handlers context state request world).1
    let unlimited := (c.unthrottled.call handlers context
      { state with pool := (c.unthrottled.start state.clockOffset).pool } request world').1
    unlimited.journal.dispatches.map
        (fun (r, limit, inFlight) => (r.masked, limit, inFlight)) =
      limited.journal.dispatches.map (fun (r, limit, inFlight) => (r.masked, limit, inFlight)) ∧
    unlimited.journal.decisions = limited.journal.decisions ∧
    unlimited.journal.milestones = limited.journal.milestones ∧
    unlimited.result = limited.result ∧
    unlimited.context.metrics = limited.context.metrics := by
  intro limited unlimited
  have halike : limited.Alike Same unlimited := Client.call_alike hc hrequest hworld hpool hample
  refine ⟨?_, ?_, ?_, halike.result, halike.metrics⟩
  · rw [← Journal.dispatches_masked, ← Journal.dispatches_masked, halike.journal]
  · rw [← Journal.decisions_masked, halike.journal, Journal.decisions_masked]
  · rw [← Journal.milestones_masked, halike.journal, Journal.milestones_masked]

namespace Rehearsal

/-- An exchange depends on the payload and on no header field. -/
theorem perform_indifferent (step : Step) : Handles Eq (perform step) := by
  rintro r r' stage _ hr rfl
  obtain ⟨answer, reads, lasts, cancels⟩ := step
  unfold perform
  rw [hr.body]
  cases reads with
  | none =>
    rcases r.body.readRemaining with ⟨e | got, body⟩
    · exact ⟨rfl, hr.withBody body, rfl⟩
    · cases cancels <;> exact ⟨rfl, hr.withBody body, rfl⟩
  | some n =>
    dsimp only
    rcases r.body.readUpTo n with ⟨e | got, body⟩
    · exact ⟨rfl, hr.withBody body, rfl⟩
    · cases cancels <;> exact ⟨rfl, hr.withBody body, rfl⟩

theorem transport_indifferent (limit : Option Duration) :
    Handles Eq fun r => transport.send r limit := by
  rintro r r' stage _ hr rfl
  exact perform_indifferent _ _ _ _ _ hr rfl

theorem client_indifferent (failure : ServiceError) :
    client.Indifferent Eq (handlers failure) unsigned := by
  have hsteady : ∀ {β : Type} (act : Act β), Steady Eq act := by
    rintro β act world _ rfl
    exact ⟨rfl, rfl⟩
  exact {
    now := hsteady _
    timeOfDay := hsteady _
    invocationId := hsteady _
    isCancelled := hsteady _
    pause := fun _ => hsteady _
    condition := fun _ => hsteady _
    backoff := fun _ => hsteady _
    send := transport_indifferent
    collector := fun _ h => by cases h
    credentials := fun _ _ => hsteady _
    signers := fun _ => hsteady _
    signer := fun _ _ _ h => by cases h
    hooks := fun _ h => by cases h
    authRetry := fun _ h => by cases h
    handle := fun _ => hsteady _
    handleError := fun _ => hsteady _ }

end Rehearsal

open Rehearsal in
/-- Two retries are paid for, and only one of the pools can tell. -/
theorem ample_capacity_unnoticed_elsewhere :
    let world : Stage := { steps := [.timeout, .timeout, .answering .ok {}] }
    let limited := (client.call (handlers expired) unsigned (client.start 0) paid world).1
    let unlimited := (client.unthrottled.call (handlers expired) unsigned
      { client.start 0 with pool := (client.unthrottled.start 0).pool } paid world).1
    let told := fun report : CallReport Stage Unit =>
      report.journal.dispatches.map fun d => d.1.headers.text? CallM.retryHeader
    unlimited.journal.dispatches.map
        (fun (r, limit, inFlight) => (r.masked, limit, inFlight)) =
      limited.journal.dispatches.map (fun (r, limit, inFlight) => (r.masked, limit, inFlight)) ∧
    unlimited.journal.decisions = limited.journal.decisions ∧
    unlimited.journal.milestones = limited.journal.milestones ∧
    unlimited.result = limited.result ∧
    unlimited.context.metrics = limited.context.metrics ∧
    told limited = [some "0/0/500", some "1/0/495", some "2/0/490"] ∧
    told unlimited = [some "0/0/", some "1/0/", some "2/0/"] := by
  intro world limited unlimited told
  have htold : told limited = [some "0/0/500", some "1/0/495", some "2/0/490"] ∧
      told unlimited = [some "0/0/", some "1/0/", some "2/0/"] := by
    simp only [told, limited, unlimited, Client.call, CallM.call, CallM.conduct,
      CallM.attempts_eq_turnsIn]
    decide +kernel
  have hpaid : paid.Alike Eq paid := by
    refine ⟨rfl, ?_, ?_⟩
    · rintro _ ⟨⟩
    · rintro _ ⟨⟩
  have hpool : (client.start 0).pool.Holds 500 500 := ⟨Nat.le_refl _, rfl⟩
  have hample : client.config.maxRetries * client.config.capacityPolicy.cost ≤ 500 := by decide
  obtain ⟨hsent, hdecided, htracked, hresult, hmetrics⟩ :=
    ample_capacity_unnoticed (client_indifferent expired) hpaid (rfl : world = world) hpool hample
  exact ⟨hsent, hdecided, htracked, hresult, hmetrics, htold⟩

end ServiceCall
