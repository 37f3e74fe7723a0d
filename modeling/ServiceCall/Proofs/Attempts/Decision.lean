import ServiceCall.Proofs.Attempts.Stream

/-!
Decisions about failures below the level of responses. Wherever such a failure is met, it is left
to the decision whether to retry, unless it is the response handler that tells it: such a failure
ends the call at once.
-/

namespace ServiceCall

variable {σ α : Type}

/-! ### Failures below the level of responses -/

def ioCodes : List ErrorCode := [.transport, .timeout, .readBody]

theorem Error.code_of_isIo {e : Error} (h : e.isIo = true) : e.code ∈ ioCodes := by
  cases e <;> first | exact absurd h Bool.false_ne_true | simp [code, ioCodes]

/-- The response handler has told the failure, and nothing has happened since. -/
def ToldLast (handlers : Handlers σ α) (e : Error) (j : Journal σ) : Prop :=
  ∃ before r world, j = before ++ [.handled r] ∧
    (handlers.response.handle r world).1.1 = .error (.failure e)

/-- Why a call ends with a failure below the level of responses: either the response handler has
told it, or it was decided not to retry. -/
inductive Verdict (handlers : Handlers σ α) (l : CallLimits) (repeatable : Bool) (e : Error)
    (j : Journal σ) : Prop where
  | told (r : HttpResponse) (world : σ) (mem : .handled r ∈ j)
    (tells : (handlers.response.handle r world).1.1 = .error (.failure e))
  | exhausted (used : l.retries < j.started)
  | unrepeatable (spent : repeatable = false)
  | refused (cost : Nat) (mem : .capacityRefused cost ∈ j)
  | declined (failed : FailedAttempt σ) (mem : .conditionAsked failed false ∈ j)
    (error : failed.error = e)

/-- What becomes of failures below the level of responses, by where they are met. -/
structure MetBelow (s : CallSetting σ α) (authAllowed : Bool) : Prop where
  noResponse : ∀ fault limit run,
    CallM.Ends (CallM.onNoResponse s fault limit : CallM σ (Outcome σ α authAllowed)) run
      (fun outcome _ => outcome = .retryable (CallM.transportFailure fault limit run.request))
      fun e _ => e.code = .deadlineExceeded
  unreadable : ∀ r source run, s.handlers.response.keepsOpen = false →
    r.buffer.1 = .error source →
    CallM.Ends (CallM.onSuccess s r : CallM σ (Outcome σ α authAllowed)) run
      (fun outcome _ => outcome = .retryable (.readBody source)) fun _ _ => False
  responseHandler : ∀ status reason r source run,
    (s.handlers.response.handle r run.world).1.1 = .error (.io source) →
    CallM.Ends (CallM.handleResult s status reason r : CallM σ (Outcome σ α authAllowed)) run
      (fun outcome _ => outcome = .retryable (.readBody source)) fun _ _ => False
  errorHandler : ∀ r failure e run, (s.handlers.error r run.world).1.1 = .error failure →
    failure.asFailure r.status r.reason = .error e → e.isIo = true →
    CallM.Ends (CallM.onFailureResponse s r : CallM σ (Outcome σ α authAllowed)) run
      (fun outcome _ => outcome = .retryable e) fun _ _ => False
  told : ∀ status reason r e run,
    (s.handlers.response.handle r run.world).1.1 = .error (.failure e) →
    CallM.Ends (CallM.handleResult s status reason r : CallM σ (Outcome σ α authAllowed)) run
      (fun _ _ => False) fun e' _ => e' = e

theorem Verdict.append {handlers : Handlers σ α} {l : CallLimits} {repeatable : Bool} {e : Error}
    {j : Journal σ} (h : Verdict handlers l repeatable e j) (new : Journal σ) :
    Verdict handlers l repeatable e (j ++ new) := by
  cases h with
  | told r world mem tells => exact .told r world (List.mem_append_left _ mem) tells
  | exhausted used =>
    refine .exhausted (Nat.lt_of_lt_of_le used ?_)
    rw [Journal.started, Journal.started, List.countP_append]
    exact Nat.le_add_right _ _
  | unrepeatable spent => exact .unrepeatable spent
  | refused cost mem => exact .refused cost (List.mem_append_left _ mem)
  | declined failed mem error => exact .declined failed (List.mem_append_left _ mem) error

namespace CallM

variable {s : CallSetting σ α} {o : Origin} {tally : Tally} {run : Run σ} {effects : List Effect}
  {authAllowed : Bool}

/-! ### Attempts -/

/-- Failures with other codes have nothing to do with this. -/
theorem Footprint.isIo {β : Type} {act : CallM σ β} (hact : Footprint effects act)
    (hn : ∀ code ∈ ioCodes, .fails code ∉ effects) (run : Run σ) :
    Ends act run (fun _ _ => True) fun e _ => e.isIo = false := by
  refine (hact.ends run).mono (fun _ _ _ => trivial) fun e _ h => ?_
  by_contra hio
  exact hn e.code (Error.code_of_isIo (by simpa using hio)) h.2

theorem onNoResponse_ends (s : CallSetting σ α) (fault : TransportError) (limit : Option Duration)
    (run : Run σ) :
    Ends (onNoResponse s fault limit : CallM σ (Outcome σ α authAllowed)) run
      (fun outcome _ => outcome = .retryable (transportFailure fault limit run.request))
      fun e _ => e.code = .deadlineExceeded := by
  unfold onNoResponse
  refine ((timeIsUp_footprint s).ends_of_no_failure (by simp) run).bind fun up run' hf => ?_
  have hsame : run'.request = run.request :=
    RequestPart.eq_of_spares fun part _ => hf.part (by simp)
  dsimp only
  split
  · exact rfl
  · rw [ends_bind, ends_request, hsame]
    rfl

theorem onSuccess_of_unreadable {r : HttpResponse} {source : IoError}
    (hopen : s.handlers.response.keepsOpen = false) (hbuffer : r.buffer.1 = .error source)
    (run : Run σ) :
    Ends (onSuccess s r : CallM σ (Outcome σ α authAllowed)) run
      (fun outcome _ => outcome = .retryable (.readBody source)) fun _ _ => False := by
  unfold onSuccess
  rw [hopen, if_neg Bool.false_ne_true]
  rcases hread : r.buffer with ⟨buffered, read⟩
  obtain rfl : buffered = .error source := by
    rw [hread] at hbuffer
    exact hbuffer
  exact rfl

/-- What comes of a failure of the response handler. -/
theorem handleResult_of_failure {r : HttpResponse} {failure : HandlerFailure}
    (hanswer : (s.handlers.response.handle r run.world).1.1 = .error failure) (status : Status)
    (reason : Option String) :
    Ends (handleResult s status reason r : CallM σ (Outcome σ α authAllowed)) run
      (fun outcome _ => ∃ source, failure = .io source ∧ outcome = .retryable (.readBody source))
      fun e run' => run'.journal = run.journal ++ [.handled r] ∧ (∀ source, failure ≠ .io source) ∧
        (∀ e', failure = .failure e' → e = e') ∧ (e.isIo = true → failure = .failure e) := by
  unfold handleResult
  rw [ends_bind, ends_record, ends_bind, ends_perform]
  dsimp only
  rcases hhandle : (s.handlers.response.handle r run.world).1 with ⟨answer, read⟩
  obtain rfl : answer = .error failure := by
    rw [hhandle] at hanswer
    exact hanswer
  cases failure with
  | io source => exact ⟨source, rfl, rfl⟩
  | failure e => exact ⟨rfl, by simp, fun _ heq => HandlerFailure.failure.inj heq, fun _ => rfl⟩
  | _ => exact ⟨rfl, by simp, by simp, fun hio => absurd hio Bool.false_ne_true⟩

/-- Of the failures below the level of responses, only those that the response handler tells end
an attempt for good. -/
theorem handleResult_told (status : Status) (reason : Option String) (r : HttpResponse)
    (run : Run σ) :
    Ends (handleResult s status reason r : CallM σ (Outcome σ α authAllowed)) run
      (fun _ _ => True) fun e run' => e.isIo = true → ToldLast s.handlers e run'.journal := by
  rcases hanswer : (s.handlers.response.handle r run.world).1.1 with failure | handled
  · refine (handleResult_of_failure hanswer status reason).mono (fun _ _ _ => trivial) ?_
    rintro e run' ⟨hj, -, -, htold⟩ hio
    exact ⟨run.journal, r, run.world, hj, htold hio ▸ hanswer⟩
  · rcases hhandle : (s.handlers.response.handle r run.world).1 with ⟨answer, read⟩
    obtain rfl : answer = .ok handled := by
      rw [hhandle] at hanswer
      exact hanswer
    unfold handleResult
    rw [ends_bind, ends_record, ends_bind, ends_perform, hhandle]
    exact ends_bind.mpr (((complete_footprint s status handled read).ends_of_no_failure (by simp)
      _).mono (fun _ _ _ => trivial) fun _ _ h => h)

theorem onFailureResponse_of_isIo {r : HttpResponse} {failure : HandlerFailure} {e : Error}
    (hanswer : (s.handlers.error r run.world).1.1 = .error failure)
    (hfailure : failure.asFailure r.status r.reason = .error e) (hio : e.isIo = true) :
    Ends (onFailureResponse s r : CallM σ (Outcome σ α authAllowed)) run
      (fun outcome _ => outcome = .retryable e) fun _ _ => False := by
  unfold onFailureResponse readFailure
  rw [ends_bind, ends_bind, ends_perform]
  rcases hhandle : (s.handlers.error r run.world).1 with ⟨answer, read⟩
  obtain rfl : answer = .error failure := by
    rw [hhandle] at hanswer
    exact hanswer
  rw [ends_bind, ends_request]
  simp only [hfailure, Except.map, hio, if_true, ends_pure]

theorem metBelow (s : CallSetting σ α) (authAllowed : Bool) : MetBelow s authAllowed where
  noResponse := fun fault limit run => onNoResponse_ends s fault limit run
  unreadable := fun _ _ run hopen hbuffer => onSuccess_of_unreadable hopen hbuffer run
  responseHandler := by
    intro status reason r source run hanswer
    refine (handleResult_of_failure hanswer status reason).mono ?_ ?_
    · rintro outcome run' ⟨source', heq, houtcome⟩
      rw [houtcome, HandlerFailure.io.inj heq]
    · rintro e run' ⟨-, hne, -⟩
      exact hne source rfl
  errorHandler := fun _ _ _ _ hanswer hfailure hio =>
    onFailureResponse_of_isIo hanswer hfailure hio
  told := by
    intro status reason r e run hanswer
    refine (handleResult_of_failure hanswer status reason).mono ?_ ?_
    · rintro outcome run' ⟨source, heq, -⟩
      cases heq
    · rintro e' run' ⟨-, -, htold, -⟩
      exact htold e rfl

theorem told_answerRule (s : CallSetting σ α) :
    AnswerRule s [] (fun _ => True) (fun (_ : Outcome σ α authAllowed) _ => True)
      fun e run => e.isIo = true → ToldLast s.handlers e run.journal where
  dependsOn := fun _ _ _ _ _ _ => trivial
  apart := by simp
  handleResult := fun status reason r run _ => handleResult_told status reason r run
  onRedirect := fun location _ _ =>
    onRedirect_ends (fun _ => trivial) (fun _ _ _ => trivial)
      fun _ hio => absurd hio Bool.false_ne_true
  correctClock := fun headers e run _ =>
    ((correctClock_footprint s headers e).ends_of_no_failure (by simp) run).mono
      (fun _ _ _ => trivial) fun _ _ h => h
  askAuthRetry := by
    intro e run _
    refine askAuthRetry_ends trivial fun rule answer allowed _ _ _ => ?_
    rw [ends_bind, ends_record]
    cases answer.1 with
    | some parameters => exact trivial
    | none => exact trivial
  retryable := fun _ _ _ => trivial
  fatal := fun e _ hfatal _ hio => by rw [hfatal] at hio; cases hio

theorem attempt_told (s : CallSetting σ α) (directive : Directive σ) (number : Nat)
    (run : Run σ) :
    Ends (attempt s directive number : CallM σ (Outcome σ α authAllowed)) run (fun _ _ => True)
      fun e run' => e.isIo = true → ToldLast s.handlers e run'.journal := by
  rw [attempt_eq_sendOut]
  refine (((sendOut_footprint s directive number).isIo (by decide) run).mono (fun _ _ h => h)
    ?_).bind fun sent _ _ => (told_answerRule s).interpret trivial sent.1 sent.2
  intro e _ hfalse hio
  rw [hfalse] at hio
  cases hio

/-! ### Turns -/

/-- A failure that might be retried ends a call for a reason. -/
theorem conclude_verdict (handlers : Handlers σ α) {repeatable : Bool}
    (ho : o.repeatable = repeatable)
    (outcome : Outcome σ α (decide (tally.authRetries < s.limits.authRetries)))
    (hstarted : run.journal.started = tally.attempts + 1) :
    Ends (conclude s o tally outcome) run (fun _ _ => True)
      fun e run' => e.isIo = true → Verdict handlers s.limits repeatable e run'.journal := by
  unfold conclude
  cases outcome with
  | success response => exact trivial
  | redirect target =>
    dsimp only
    split
    · rw [ends_bind, ends_countForClient]
      exact trivial
    · exact fun hio => absurd hio Bool.false_ne_true
  | authRetry parameters allowed => exact trivial
  | retryable failure =>
    dsimp only
    unfold countException
    rw [ends_bind, ends_count]
    split
    · refine ends_bind.mpr ((admits_ends s o failure _ _).mono ?_ fun _ _ h => h.elim)
      intro admitted run' hadmission
      cases admitted with
      | true =>
        rw [if_pos rfl, ends_bind, ends_countForClient]
        exact trivial
      | false =>
        intro _
        cases hadmission with
        | unrepeatable spent _ => exact .unrepeatable (ho.symm.trans spent)
        | refused _ _ _ _ journal =>
          exact .refused s.retryCost (by rw [journal]; simp)
        | free _ failed tells _ _ _ journal =>
          exact .declined failed (by rw [journal]; simp) tells.error
        | paid _ failed tells _ _ _ _ journal =>
          exact .declined failed (by rw [journal]; simp) tells.error
    · next hused =>
      exact fun _ => .exhausted (hstarted.symm ▸ Nat.lt_succ_of_le (Nat.not_lt.mp hused))

end CallM

/-! ### Calls -/

/-- What is known in each phase of a call of the failure with which it may end. The attempts begin
with a request whose body is such as `opening` says. -/
def Phase.Judged (first : Run σ) (handlers : Handlers σ α) (l : CallLimits)
    (opening : Bool → Prop) : Phase σ α → Run σ → Prop
  | .outset, run => run = first
  | .begun, run => opening run.request.body.isRepeatable
  | .ready o _ _, _ => opening o.repeatable
  | .waiting o _ _ _, _ => opening o.repeatable
  | .failing e, run => e.isIo = true →
      ∃ repeatable, opening repeatable ∧ Verdict handlers l repeatable e run.journal
  | .ended (.error e), run => e.isIo = true →
      ∃ repeatable, opening repeatable ∧ Verdict handlers l repeatable e run.journal
  | .ended (.ok _), _ => True

namespace CallM

variable {s : CallSetting σ α} {first : Run σ} {opening : Bool → Prop}

theorem judged_phaseInvariant
    (hlaunch : Ends (launch s) first (fun _ run => opening run.request.body.isRepeatable)
      fun _ _ => True) :
    PhaseInvariant s fun phase run => phase.Tallies s.limits run.journal ∧
      phase.Judged first s.handlers s.limits opening run where
  launch := by
    rintro run ⟨htallies, rfl⟩
    refine (((tallies_phaseInvariant s).launch run htallies).and
      (((launch_footprint s).isIo (by decide) run).and hlaunch)).mono ?_ ?_
    · exact fun _ _ h => ⟨h.1, h.2.2⟩
    · exact fun _ _ h => ⟨h.1, fun hio => absurd (h.2.1.symm.trans hio) Bool.false_ne_true⟩
  markOrigin := by
    rintro run ⟨htallies, hopening⟩
    have hmarked : Ends markOrigin run (fun o _ => opening o.repeatable)
        fun e _ => e.isIo = false := by
      unfold markOrigin
      rw [ends_bind, ends_request]
      dsimp only
      split
      · exact hopening
      · exact ((markBody_footprint.isIo (by decide) run).bind fun _ _ _ => hopening)
    refine (((tallies_phaseInvariant s).markOrigin run htallies).and hmarked).mono
      (fun _ _ h => h) ?_
    exact fun _ _ h => ⟨h.1, fun hio => absurd (h.2.symm.trans hio) Bool.false_ne_true⟩
  depart := by
    rintro o tally directive run ⟨htallies, hopening⟩
    refine (((tallies_phaseInvariant s).depart o tally directive run htallies).and
      ((depart_footprint s o tally directive).isIo (by decide) run)).mono ?_ ?_
    · exact fun _ _ h => ⟨h.1, hopening⟩
    · exact fun _ _ h => ⟨h.1, fun hio => absurd (h.2.symm.trans hio) Bool.false_ne_true⟩
  arrive := by
    rintro o tally limit answer run ⟨htallies, hopening⟩
    have hverdict : Ends (arrive s o tally limit answer) run (fun _ _ => True)
        fun e run' => e.isIo = true → Verdict s.handlers s.limits o.repeatable e run'.journal := by
      have htold : Ends (interpret s limit answer :
            CallM σ (Outcome σ α (decide (tally.authRetries < s.limits.authRetries)))) run
          (fun _ _ => True) fun e run' => e.isIo = true → ToldLast s.handlers e run'.journal :=
        (told_answerRule s).interpret trivial limit answer
      -- The tally tells that an attempt without a retry left was started beyond the limit.
      have hinterpret := ((tallies_answerRule s tally).interpret htallies limit answer).and htold
      unfold arrive
      refine Ends.bind (ends_onFailure.mpr (hinterpret.mono (fun _ _ h => h.1) ?_))
        fun outcome _ h => conclude_verdict s.handlers rfl outcome ?_
      · rintro e run' ⟨-, htold⟩ hio
        obtain ⟨before, r, world, hj, htells⟩ := htold hio
        refine .told r world ?_ htells
        rw [show (countFailedAttempt run').journal = _ from hj]
        simp
      · cases outcome <;> exact h.started
    refine (((tallies_phaseInvariant s).arrive o tally limit answer run htallies).and
      hverdict).mono ?_ fun _ _ h => ⟨h.1, fun hio => ⟨_, hopening, h.2 hio⟩⟩
    rintro t run' ⟨htallies, -⟩
    cases t with
    | finished response => exact ⟨htallies, trivial⟩
    | again tally' directive less => exact ⟨htallies, hopening⟩
  giveUp := by
    rintro e run ⟨htallies, hjudged⟩
    refine ⟨(tallies_phaseInvariant s).giveUp e run htallies, fun hio => ?_⟩
    obtain ⟨repeatable, hopening, hverdict⟩ := hjudged hio
    obtain ⟨new, hnew, -⟩ := (giveUp_frame s run).journal
    rw [hnew]
    exact ⟨repeatable, hopening, hverdict.append new⟩

end CallM

/-- An attempt leaves every failure below the level of responses to the decision whether to retry,
wherever it is met, apart from those that the response handler tells itself: these end it for
good. So if a call ends with such a failure, its limits, its body, the pool or the condition for
retries have decided so, or the response handler has told it. -/
theorem io_failure_decided (c : Client σ) (handlers : Handlers σ α) (context : CallContext σ)
    (state : ClientState) (request : HttpRequest σ) (world : σ) :
    let s := c.settingAt handlers context request world
    let report := (c.call handlers context state request world).1
    (∀ authAllowed directive number run,
      CallM.Ends (CallM.attempt s directive number : CallM σ (Outcome σ α authAllowed)) run
        (fun _ _ => True) fun e run' => e.isIo = true → ToldLast handlers e run'.journal) ∧
    (∀ authAllowed, MetBelow s authAllowed) ∧
    ∀ e, report.result = .error e → e.isIo = true →
      ∃ o, c.outset? handlers context state request world = some o ∧
        Verdict handlers s.limits o.body.isRepeatable e report.journal := by
  intro s report
  refine ⟨fun _ directive number run => CallM.attempt_told s directive number run,
    CallM.metBelow s, ?_⟩
  intro e hresult hio
  cases hshut : state.isShutDown with
  | true =>
    rw [show report = _ from Client.call_of_isShutDown hshut] at hresult
    rw [← Except.error.inj hresult] at hio
    cases hio
  | false =>
    obtain ⟨n, -, result, conducted, last, hstands, hframe, hreport⟩ :=
      @Client.exists_standsAfter_ended σ α c handlers context state request world hshut
    let opening : Bool → Prop := fun repeatable =>
      ∃ o, c.outset? handlers context state request world = some o ∧
        o.body.isRepeatable = repeatable
    have hlaunch : CallM.Ends (CallM.launch s) (c.runAt state request world)
        (fun _ run => opening run.request.body.isRepeatable) fun _ _ => True :=
      (c.launch_ends handlers context state request world).mono (fun _ _ h => ⟨_, h, rfl⟩)
        fun _ _ h => h
    have hjudged := (hstands.invariant (CallM.judged_phaseInvariant hlaunch) ⟨Tallied.nil _, rfl⟩).2
    obtain rfl : result = .error e := hreport.result.symm.trans hresult
    obtain ⟨_, ⟨o, ho, rfl⟩, hverdict⟩ := hjudged hio
    obtain ⟨new, hnew, -⟩ := hframe.journal
    rw [show report.journal = last.journal from hreport.journal, hnew]
    exact ⟨o, ho, hverdict.append new⟩

namespace Rehearsal

/-- No result can be read. -/
def unread (failure : HandlerFailure) : Handlers Stage Unit where
  response := { handle := fun r => return (.error failure, r) }
  error := fun r => return (.ok expired, r)

/-- The report of a call whose responses are all successes that cannot be read. -/
def fruitless (failure : HandlerFailure) : CallReport Stage Unit :=
  (client.call (unread failure) unsigned (client.start 0) request
    { steps := List.replicate 4 (.answering .ok {}) }).1

end Rehearsal

open Rehearsal in
/-- The same failure is retried up to the limit if the response handler leaves it to the client,
and not at all if it tells it itself. -/
theorem io_failure_undecided :
    let lost : IoError := ⟨.other, "connection lost"⟩
    let outcome := fun report : CallReport Stage Unit =>
      (failureCode? report.result, report.journal.started,
        report.journal.countP fun e => e.kind = .conditionAsked)
    client.config.maxRetries = 3 ∧ (Error.readBody lost).isIo = true ∧
      outcome (fruitless (.io lost)) = (some .readBody, 4, 3) ∧
      outcome (fruitless (.failure (.readBody lost))) = (some .readBody, 1, 0) := by
  simp only [fruitless, Client.call, CallM.call, CallM.conduct, CallM.attempts_eq_turnsIn]
  decide +kernel

end ServiceCall
