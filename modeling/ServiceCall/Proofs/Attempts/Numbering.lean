import ServiceCall.Proofs.Attempts.Bounds
import ServiceCall.Proofs.Call.Attempt

/-!
Numbers that a call tells of itself. What is told as the number of its retries is how often it
has gone on after an attempt: redirects that were followed and authentication retries count as
well, and they use up the limit for retries.
-/

namespace ServiceCall

variable {σ α : Type}

/-! ### What is told -/

/-- The header field for retries begins with the number. -/
def HttpRequest.Carries (n : Nat) (r : HttpRequest σ) : Prop :=
  ∃ rest value, HeaderValue.ofString? (s!"{n}/" ++ rest) = some value ∧
    r.headers.get? CallM.retryHeader = some value

namespace Journal

/-- How often the call has gone on after an attempt, for whatever reason. -/
def resumed (j : Journal σ) : Nat := j.admitted + j.followed + j.granted

/-- Whoever is told of retries is told how often the call has gone on. The rule for pauses is not
told of the last time. -/
def TellsResumed (before : Journal σ) : Event σ → Prop
  | .conditionAsked failed _ =>
    failed.attempts = before.resumed + 1 ∧ failed.retries = before.resumed
  | .backoffAsked failed _ =>
    failed.attempts = before.resumed ∧ failed.retries + 1 = before.resumed
  | .signing _ _ r => r.Carries before.resumed
  | .dispatched r _ _ => before.Sends (HttpRequest.Carries before.resumed) r
  | _ => True

/-- The events that tell. -/
def tellingKinds : List EventKind := [.conditionAsked, .backoffAsked, .signing, .dispatched]

theorem tellsResumed_of_kind (before : Journal σ) (e : Event σ) (h : e.kind ∉ tellingKinds) :
    before.TellsResumed e := by
  cases e <;> first | trivial | exact absurd (by simp [Event.kind, tellingKinds]) h

end Journal

/-- Once an attempt is started, the call has gone on one time less than it has started one. -/
theorem Tallied.resumed {l : CallLimits} {t : Tally} {j : Journal σ}
    (h : Tallied l (t.attempts + 1) t.redirects t j) : j.resumed = t.attempts := by
  have hfollowed := h.followed
  have hgranted := h.granted
  have hadmitted := h.admitted
  unfold Journal.resumed
  omega

/-! ### An attempt -/

/-- The attempt is counted, and so far the truth has been told. -/
structure Truthful (l : CallLimits) (t : Tally) (run : Run σ) : Prop where
  tallied : Tallied l (t.attempts + 1) t.redirects t run.journal
  obeys : run.journal.Obeys Journal.TellsResumed

def truthEffects : List Effect := tallyEffects ++ Journal.tellingKinds.map .records

namespace Truthful

variable {l : CallLimits} {t : Tally} {run run' : Run σ}

theorem dependsOn : DependsOn truthEffects (Truthful (σ := σ) l t) := by
  intro effects run run' hn hf h
  obtain ⟨htallied, hobeys⟩ := tallied_dependsOn.and
    (Journal.obeys_dependsOn _ Journal.tellsResumed_of_kind) _ _ _ hn hf ⟨h.tallied, h.obeys⟩
  exact ⟨htallied, hobeys⟩

/-- An event that tells the truth and does not count. -/
theorem concat {e : Event σ} (h : Truthful l t run) (hlaw : run.journal.TellsResumed e)
    (hquiet : .records e.kind ∉ tallyEffects) (hj : run'.journal = run.journal ++ [e]) :
    Truthful l t run' := by
  constructor
  · rw [hj]
    exact h.tallied.append (by simpa using hquiet)
  · rw [hj]
    exact h.obeys.concat hlaw

end Truthful

namespace CallM

variable {s : CallSetting σ α} {o : Origin} {tally : Tally} {run : Run σ} {effects : List Effect}

theorem Footprint.truthful {β : Type} {act : CallM σ β} {l : CallLimits}
    (hact : Footprint effects act) (hn : ∀ effect ∈ truthEffects, effect ∉ effects)
    (h : Truthful l tally run) :
    Ends act run (fun _ => Truthful l tally) fun _ run' => run'.journal.Obeys
      Journal.TellsResumed :=
  (hact.keeps Truthful.dependsOn hn h).mono_failed fun _ _ h => h.obeys

/-- The attempt that failed is the one before. -/
theorem pauseAfter_tells {l : CallLimits} (hpos : 0 < tally.attempts) (failure : Error)
    (h : Truthful l tally run) :
    Ends (pauseAfter s failure (tally.attempts + 1)) run (fun _ => Truthful l tally)
      fun _ run' => run'.journal.Obeys Journal.TellsResumed := by
  have hresumed := h.tallied.resumed
  refine pauseAfter_ends fun delay world => ?_
  have htold : run.journal.TellsResumed
      (.backoffAsked (failedBefore run.request failure (tally.attempts + 1)) delay) := by
    simp only [Journal.TellsResumed, failedBefore, hresumed]
    omega
  apply (waitOut_footprint s delay).truthful (by decide)
  exact h.concat htold (by simp [Event.kind, tallyEffects]) rfl

theorem approach_tells {l : CallLimits} {directive : Directive σ}
    (hretry : ∀ failure, directive = .retry failure → 0 < tally.attempts)
    (h : Truthful l tally run) :
    Ends (approach s directive (tally.attempts + 1)) run (fun _ => Truthful l tally)
      fun _ run' => run'.journal.Obeys Journal.TellsResumed := by
  have hpause : ∀ failure run, directive = .retry failure → Truthful l tally run →
      Ends (pauseAfter s failure (tally.attempts + 1)) run (fun _ => Truthful l tally)
        fun _ run' => run'.journal.Obeys Journal.TellsResumed :=
    fun failure _ heq h => pauseAfter_tells (hretry failure heq) failure h
  unfold approach
  refine ((checkInterruption_footprint s).truthful (by decide) h).bind fun _ _ h => ?_
  refine ((loadCredentials_footprint s).truthful (by decide) h).bind fun _ _ h => ?_
  exact (beginAgain_ends Truthful.dependsOn (by decide) hpause h).bind fun _ _ h => h

theorem exists_retryHeaderValue (n : Nat) (lastBackoff : Duration) (pool : RetryPool) :
    ∃ rest, retryHeaderValue (n + 1) lastBackoff pool = s!"{n}/" ++ rest := by
  simp only [retryHeaderValue, Nat.add_sub_cancel, String.append_assoc]
  exact ⟨_, rfl⟩

/-- The number in the header field is the one before that of the attempt. -/
theorem stampRetryHeader_tells {l : CallLimits} (h : Truthful l tally run) :
    Ends (stampRetryHeader (tally.attempts + 1)) run
      (fun _ run' => Truthful l tally run' ∧ run'.request.Carries tally.attempts)
      fun _ run' => run'.journal.Obeys Journal.TellsResumed := by
  refine (stampRetryHeader_ends (tally.attempts + 1) run).mono ?_ ?_
  · rintro _ _ ⟨value, hvalue, rfl⟩
    obtain ⟨rest, hrest⟩ :=
      exists_retryHeaderValue tally.attempts run.lastBackoff run.client.pool
    rw [hrest] at hvalue
    refine ⟨⟨h.tallied, h.obeys⟩, rest, value, hvalue, ?_⟩
    rw [Headers.get?, Headers.getAll_set_self]
    rfl
  · rintro _ _ rfl
    exact h.obeys

/-- A signer is handed a request with the number. -/
theorem signWith_tells {l : CallLimits} (signer : Option (Signer σ))
    (credentials : Option Credentials) (h : Truthful l tally run)
    (hcarries : run.request.Carries tally.attempts) :
    Ends (signWith signer credentials) run
      (fun _ run' => Truthful l tally run' ∧
        run'.journal.Sends (HttpRequest.Carries tally.attempts) run'.request)
      fun _ run' => run'.journal.Obeys Journal.TellsResumed := by
  have hhanded : ∀ offset, HttpRequest.Carries tally.attempts
      { run.request with timeOffset := offset } := fun _ => hcarries
  have htruth : ∀ run', SignsWith run run' signer credentials → Truthful l tally run' := by
    intro run' hsigns
    cases hsigns with
    | unsigned _ same =>
      rw [same]
      exact h
    | signed hsigned =>
      obtain ⟨⟨timeOffset, rfl⟩, -, ⟨offset, hj⟩, -⟩ := hsigned
      refine h.concat ?_ (by simp [Event.kind, tallyEffects]) hj
      rw [Journal.TellsResumed, h.tallied.resumed]
      exact hhanded timeOffset
  exact (signWith_ends signer credentials run).mono
    (fun _ run' hsigns => ⟨htruth run' hsigns, hsigns.sends hhanded⟩)
    fun _ run' hsigns => (htruth run' hsigns).obeys

/-- What is sent has the number, or had it before it was signed. -/
theorem sendOff_tells {l : CallLimits} (h : Truthful l tally run)
    (hsends : run.journal.Sends (HttpRequest.Carries tally.attempts) run.request) :
    Ends (sendOff s) run (fun _ => Truthful l tally)
      fun _ run' => run'.journal.Obeys Journal.TellsResumed := by
  refine sendOff_ends (Truthful.dependsOn.and (Journal.sends_dependsOn _)) (by decide)
    (fun _ _ h => h.1.obeys) (fun limit _ sending _ h _ hj _ => ?_) ⟨h, hsends⟩
  refine h.1.concat ?_ (by simp [Event.kind, tallyEffects]) hj
  rw [Journal.TellsResumed, h.1.tallied.resumed]
  exact h.2

theorem sendOut_tells {l : CallLimits} {directive : Directive σ}
    (hretry : ∀ failure, directive = .retry failure → 0 < tally.attempts)
    (h : Truthful l tally run) :
    Ends (sendOut s directive (tally.attempts + 1)) run (fun _ => Truthful l tally)
      fun _ run' => run'.journal.Obeys Journal.TellsResumed := by
  have hcarries : DependsOn [.request .headers] fun run : Run σ =>
      run.request.Carries tally.attempts := by
    rintro effects run run' hn hf ⟨rest, value, hvalue, hget⟩
    have hheaders : run'.request.headers = run.request.headers :=
      hf.part (hn (.request .headers) (.head _))
    exact ⟨rest, value, hvalue, by rw [hheaders, hget]⟩
  have hcarrying := (Truthful.dependsOn (l := l) (t := tally)).and hcarries
  unfold sendOut
  refine (approach_tells hretry h).bind fun credentials _ h => ?_
  refine (stampRetryHeader_tells h).bind fun _ _ h => ?_
  refine (((bindSigner_footprint s directive).keeps hcarrying (by decide) h).mono_failed
      fun _ _ h => h.1.obeys).bind fun signer _ h => ?_
  exact (signWith_tells signer credentials h.1 h.2).bind fun _ _ h => sendOff_tells h.1 h.2

end CallM

/-! ### Every step -/

/-- Before a retry there has been an attempt. -/
def Phase.Tells : Phase σ α → Journal σ → Prop
  | .ready _ tally directive, j =>
    (∀ failure, directive = .retry failure → 0 < tally.attempts) ∧ j.Obeys Journal.TellsResumed
  | .outset, j => j.Obeys Journal.TellsResumed
  | .begun, j => j.Obeys Journal.TellsResumed
  | .waiting .., j => j.Obeys Journal.TellsResumed
  | .failing _, j => j.Obeys Journal.TellsResumed
  | .ended _, j => j.Obeys Journal.TellsResumed

namespace CallM

variable {s : CallSetting σ α} {o : Origin} {tally : Tally} {run : Run σ}

theorem tells_dependsOn : DependsOn (Journal.tellingKinds.map .records)
    fun run : Run σ => run.journal.Obeys Journal.TellsResumed :=
  Journal.obeys_dependsOn _ Journal.tellsResumed_of_kind

theorem depart_tells {directive : Directive σ}
    (htallies : (Phase.ready o tally directive : Phase σ α).Tallies s.limits run.journal)
    (htells : (Phase.ready o tally directive : Phase σ α).Tells run.journal) :
    Ends (depart s o tally directive) run (fun _ run' => run'.journal.Obeys Journal.TellsResumed)
      fun _ run' => run'.journal.Obeys Journal.TellsResumed := by
  obtain ⟨hlimit, followed, hfollowed, htallied⟩ := htallies
  obtain ⟨hretry, hobeys⟩ := htells
  have htally : DependsOn tallyEffects fun run : Run σ =>
      Tallied s.limits tally.attempts followed tally run.journal := tallied_dependsOn
  have hready := htally.and tells_dependsOn
  unfold depart
  refine (((checkInterruption_footprint s).keeps hready (by decide) ⟨htallied, hobeys⟩).mono_failed
      fun _ _ h => h.2).bind fun _ checked h => ?_
  refine (startAttempt_ends s directive (tally.attempts + 1) checked).bind fun _ started hf => ?_
  have hstarted : Truthful s.limits tally
      { checked with
        journal := checked.journal ++ [.attemptStarted (tally.attempts + 1) directive] } :=
    ⟨h.1.start hlimit hfollowed, h.2.concat trivial⟩
  have h := Truthful.dependsOn _ _ _ (by decide) hf hstarted
  refine ((prepare_footprint o directive).truthful (by decide) h).bind fun _ _ h => ?_
  refine ends_onFailure.mpr ((sendOut_tells hretry h).mono (fun _ _ h => h.obeys) ?_)
  exact fun _ stopped h => tells_dependsOn _ _ _ (by decide) (countFailedAttempt_frame stopped) h

/-- The condition is told the truth. -/
theorem admission_tells {failure : Error} {asking run' : Run σ} {admitted : Bool}
    (h : Truthful s.limits tally asking)
    (hadmission : Admission s o failure (tally.attempts + 1) asking run' admitted) :
    run'.journal.Obeys Journal.TellsResumed := by
  have htold : ∀ (j : Journal σ) (failed : FailedAttempt σ), j.resumed = tally.attempts →
      Tells o failure (tally.attempts + 1) failed →
      j.TellsResumed (.conditionAsked failed admitted) := by
    intro j failed hresumed tells
    refine ⟨tells.attempts.trans (by rw [hresumed]), tells.retries.trans ?_⟩
    rw [hresumed, Nat.add_sub_cancel]
  cases hadmission with
  | unrepeatable _ same =>
    rw [same]
    exact h.obeys
  | refused _ _ _ _ journal =>
    rw [journal]
    exact h.obeys.concat trivial
  | free _ failed tells _ _ _ journal =>
    rw [journal]
    exact h.obeys.concat (htold _ failed h.tallied.resumed tells)
  | paid _ failed tells _ _ _ _ journal =>
    have hpaying : asking.journal.TellsResumed (.capacityTaken s.retryCost) := trivial
    have hpaid : Truthful s.limits tally
        { asking with journal := asking.journal ++ [.capacityTaken s.retryCost] } :=
      h.concat hpaying (by simp [Event.kind, tallyEffects]) rfl
    rw [journal, List.append_cons]
    exact hpaid.obeys.concat (htold _ failed hpaid.tallied.resumed tells)

theorem conclude_tells
    (outcome : Outcome σ α (decide (tally.authRetries < s.limits.authRetries)))
    (htallies : outcome.Tallies s.limits tally run.journal)
    (hobeys : run.journal.Obeys Journal.TellsResumed) :
    Ends (conclude s o tally outcome) run (fun t run' => (nextPhase o t).Tells run'.journal)
      fun _ run' => run'.journal.Obeys Journal.TellsResumed := by
  cases outcome with
  | success response => exact hobeys
  | redirect target =>
    unfold conclude
    dsimp only
    split
    · have hcount : Footprint [.clientMetrics]
          (countForClient s fun m => { m with redirects := m.redirects + 1 }) :=
        .countForClient s _ (by decide)
      exact (hcount.keeps tells_dependsOn (by decide) hobeys).bind fun _ _ h => ⟨by simp, h⟩
    · exact hobeys
  | authRetry parameters allowed => exact ⟨by simp, hobeys⟩
  | retryable failure =>
    refine conclude_ends_of_retryable (fun _ run' hf => ?_) fun _ asking run' admitted hf h => ?_
    · exact tells_dependsOn _ _ _ (by decide) hf hobeys
    · have hasking := Truthful.dependsOn _ _ _ (by decide) hf ⟨htallies, hobeys⟩
      have htold := admission_tells hasking h
      cases admitted with
      | true =>
        intro less last hf
        exact ⟨fun _ _ => Nat.succ_pos _, tells_dependsOn _ _ _ (by decide) hf htold⟩
      | false => exact htold

theorem tells_answerInvariant (s : CallSetting σ α) :
    AnswerInvariant s (Journal.tellingKinds.map .records)
      (fun run => run.journal.Obeys Journal.TellsResumed)
      fun _ run => run.journal.Obeys Journal.TellsResumed where
  dependsOn := tells_dependsOn
  apart := by decide
  complete := fun status handled r _ h =>
    (complete_footprint s status handled r).keeps tells_dependsOn (by decide) h
  correctClock := fun headers e _ h =>
    (correctClock_footprint s headers e).keeps tells_dependsOn (by decide) h

theorem tells_phaseInvariant (s : CallSetting σ α) :
    PhaseInvariant s fun phase run =>
      phase.Tallies s.limits run.journal ∧ phase.Tells run.journal where
  launch := fun run ⟨htallies, htells⟩ =>
    ((tallies_phaseInvariant s).launch run htallies).and
      ((launch_footprint s).keeps tells_dependsOn (by decide) htells)
  markOrigin := fun run ⟨htallies, htells⟩ =>
    ((tallies_phaseInvariant s).markOrigin run htallies).and
      ((markOrigin_footprint.keeps tells_dependsOn (by decide) htells).mono
        (fun _ _ h => ⟨by simp, h⟩) fun _ _ h => h)
  depart := fun o tally directive run ⟨htallies, htells⟩ =>
    ((tallies_phaseInvariant s).depart o tally directive run htallies).and
      (depart_tells htallies htells)
  arrive := by
    rintro o tally limit answer run ⟨htallies, htells⟩
    refine ((tallies_phaseInvariant s).arrive o tally limit answer run htallies).and ?_
    have hinterpret := ((tallies_answerRule s tally).interpret htallies limit answer).and
      ((tells_answerInvariant s).answerRule.interpret htells limit answer)
    unfold arrive
    refine Ends.bind (ends_onFailure.mpr (hinterpret.mono_failed ?_)) fun outcome _ h => ?_
    · exact fun _ run h => tells_dependsOn _ _ _ (by decide) (countFailedAttempt_frame run) h.2
    · refine conclude_tells outcome h.1 ?_
      cases outcome with
      | authRetry parameters allowed => exact h.2.2
      | _ => exact h.2
  giveUp := fun e run ⟨htallies, htells⟩ =>
    ⟨(tallies_phaseInvariant s).giveUp e run htallies,
      tells_dependsOn _ _ _ (by decide) (giveUp_frame s run) htells⟩

/-! ### The limit for retries -/

/-- A failure that may be retried is submitted, or else the call ends at once. -/
structure Submits (l : CallLimits) (failure : Error) (resumed : Nat) (before : Journal σ)
    (phase : Phase σ α) (run : Run σ) : Prop where
  exhausted : l.retries ≤ resumed → phase = .failing failure ∧ run.journal = before
  submitted : resumed < l.retries → ∃ settled, run.journal = before ++ settled ∧
    ∃ e ∈ settled, e.kind = .conditionAsked ∨ e.kind = .capacityRefused

theorem Admission.exists_settled {failure : Error} {number : Nat} {asking run' : Run σ}
    {admitted : Bool} (h : Admission s o failure number asking run' admitted)
    (hrep : o.repeatable = true) :
    ∃ settled, run'.journal = asking.journal ++ settled ∧
      ∃ e ∈ settled, e.kind = .conditionAsked ∨ e.kind = .capacityRefused := by
  cases h with
  | unrepeatable spent => exact absurd (spent.symm.trans hrep) Bool.false_ne_true
  | refused _ _ _ _ journal => exact ⟨_, journal, _, .head _, .inr rfl⟩
  | free _ _ _ _ _ _ journal => exact ⟨_, journal, _, .head _, .inl rfl⟩
  | paid _ _ _ _ _ _ _ journal => exact ⟨_, journal, _, .tail _ (.head _), .inl rfl⟩

theorem arrive_submits {limit : Option Duration} {answer : Except TransportError HttpResponse}
    {failure : Error} {judged : Run σ} (hrep : o.repeatable = true)
    (hinterpret : interpret s limit answer run =
      .ok (.retryable failure : Outcome σ α (decide (tally.authRetries < s.limits.authRetries)))
        judged) :
    Ends (arrive s o tally limit answer) run
      (fun t => Submits s.limits failure tally.attempts judged.journal (nextPhase o t))
      fun e => Submits s.limits failure tally.attempts judged.journal (.failing e : Phase σ α) := by
  have hoked : onFailure (interpret s limit answer) countFailedAttempt run =
      .ok (.retryable failure : Outcome σ α (decide (tally.authRetries < s.limits.authRetries)))
        judged := by
    rw [onFailure, hinterpret]
  unfold arrive
  refine ends_bind.mpr ((ends_ok_iff hoked).mpr ?_)
  refine conclude_ends_of_retryable (fun hlimit run' hf => ?_)
    fun hlimit asking run' admitted hf hadmission => ?_
  · exact ⟨fun _ => ⟨rfl, hf.journal_eq (by simp)⟩, fun hlt => by omega⟩
  · obtain ⟨settled, hsettled, hasked⟩ := hadmission.exists_settled hrep
    rw [hf.journal_eq (by simp)] at hsettled
    cases admitted with
    | true =>
      intro less last hf
      refine ⟨fun hle => by omega, fun _ => ⟨settled, ?_, hasked⟩⟩
      rw [hf.journal_eq (by simp), hsettled]
    | false => exact ⟨fun hle => by omega, fun _ => ⟨settled, hsettled, hasked⟩⟩

end CallM

/-- The condition for retries, the rule for pauses and the service are told how often the call has
gone on after an attempt. That is the number of retries only as long as no redirect is followed
and no authentication retry is granted. Once it reaches the limit for retries, a failure that
may be retried ends the call; before that, it is submitted to the pool and to the condition. -/
theorem retries_are_resumptions (c : Client σ) (handlers : Handlers σ α) (context : CallContext σ)
    (state : ClientState) (request : HttpRequest σ) (world : σ) :
    let report := (c.call handlers context state request world).1
    report.journal.Obeys Journal.TellsResumed ∧
    ∀ n origin tally limit answer run failure judged,
      c.StandsAfter handlers context state request world n (.waiting origin tally limit answer)
        run →
      CallM.interpret (c.settingAt handlers context request world) limit answer run =
        .ok (.retryable failure :
          Outcome σ α (decide (tally.authRetries < c.config.maxAuthRetries))) judged →
      origin.repeatable = true →
      (c.config.maxRetries ≤ judged.journal.resumed → report.result = .error failure) ∧
      ∃ phase run', c.StandsAfter handlers context state request world (n + 1) phase run' ∧
        CallM.Submits ⟨c.config.maxRedirects, c.config.maxAuthRetries, c.config.maxRetries⟩ failure
          judged.journal.resumed judged.journal phase run' := by
  intro report
  have hinvariant := CallM.tells_phaseInvariant (c.settingAt handlers context request world)
  have hstart : (Phase.outset : Phase σ α).Tallies
      (c.settingAt handlers context request world).limits
        (c.runAt state request world).journal ∧
      (Phase.outset : Phase σ α).Tells (c.runAt state request world).journal :=
    ⟨Tallied.nil _, Journal.obeys_nil _⟩
  constructor
  · exact Client.obeys_of_phases _ Journal.tellsResumed_of_kind (by decide) hinvariant hstart
      fun _ _ h => h.2
  · intro n origin tally limit answer run failure judged hstands hinterpret hrep
    have htallies := (hstands.invariant hinvariant hstart).1
    have hjudged : Tallied _ (tally.attempts + 1) tally.redirects tally judged.journal :=
      (CallM.ends_ok_iff hinterpret).mp
        ((CallM.tallies_answerRule _ tally).interpret htallies limit answer)
    have hsubmits := (CallM.arrive_submits (o := origin) hrep hinterpret).phaseAfter
      (P := CallM.Submits _ failure tally.attempts judged.journal)
    -- The number that the decision goes by is the tally of attempts, which is what the journal says.
    rw [hjudged.resumed]
    refine ⟨fun hlimit => ?_, _, _, hstands.next, hsubmits⟩
    have hfailing := hstands.next
    rw [CallM.step, (hsubmits.exhausted hlimit).1] at hfailing
    exact hfailing.result_of_failing

/-! ### Rehearsals -/

/-- What is told as the number of retries. -/
def Event.retriesTold? : Event σ → Option Nat
  | .conditionAsked failed _ => some failed.retries
  | .backoffAsked failed _ => some failed.retries
  | _ => none

/-- The failure to which a call is about to answer by the decision whether to retry. -/
def CallM.retryable? (s : CallSetting σ α) : Phase σ α × Run σ → Option (Error × Run σ)
  | (.waiting origin tally limit answer, run) =>
    match (interpret s limit answer run :
      EStateM.Result Error (Run σ) (Outcome σ α (decide (tally.authRetries < s.limits.authRetries))))
    with
    | .ok (.retryable failure) judged => if origin.repeatable then some (failure, judged) else none
    | _ => none
  | _ => none

theorem CallM.eq_waiting_of_retryable? {s : CallSetting σ α} {phase : Phase σ α}
    {run judged : Run σ} {failure : Error}
    (h : retryable? s (phase, run) = some (failure, judged)) :
    ∃ origin tally limit answer, phase = .waiting origin tally limit answer ∧
      interpret s limit answer run =
        .ok (.retryable failure : Outcome σ α (decide (tally.authRetries < s.limits.authRetries)))
          judged ∧ origin.repeatable = true := by
  unfold retryable? at h
  split at h
  · next origin tally limit answer waiting heq =>
    obtain ⟨rfl, rfl⟩ := Prod.mk.inj heq
    split at h
    · next failure' judged' hinterpret =>
      split at h
      · next hrep =>
        obtain ⟨rfl, rfl⟩ := Prod.mk.inj (Option.some.inj h)
        exact ⟨origin, tally, limit, answer, rfl, hinterpret, hrep⟩
      · cases h
    · cases h
  · cases h

/-- Retries once. -/
def Rehearsal.oneRetry : Client Rehearsal.Stage :=
  { Rehearsal.client with config := { Rehearsal.config with
      retryPolicy := { Rehearsal.config.retryPolicy with maxRetries := 1 } } }

open Rehearsal in
theorem retries_are_resumptions_elsewhere :
    failureCode? (rehearse oneRetry expired unsigned (oneRetry.start 0) paid
      [elsewhere, .timeout]).result = some .timeout := by
  have hlimit := (retries_are_resumptions oneRetry (handlers expired) unsigned
    (oneRetry.start 0) paid { steps := [elsewhere, .timeout] }).2
  rcases hstands : (CallM.step (oneRetry.settingAt (handlers expired) unsigned paid
    { steps := [elsewhere, .timeout] }))^[5] (.outset, oneRetry.runAt (oneRetry.start 0) paid
      { steps := [elsewhere, .timeout] }) with ⟨phase, run⟩
  have hfacts : (CallM.retryable? (oneRetry.settingAt (handlers expired) unsigned paid
      { steps := [elsewhere, .timeout] }) (phase, run)).map
      (fun (failure, judged) => (failure.code, judged.journal.resumed)) = some (.timeout, 1) := by
    rw [← hstands]
    decide +kernel
  obtain ⟨⟨failure, judged⟩, hretryable, hcode⟩ := Option.map_eq_some_iff.mp hfacts
  obtain ⟨hcode, hresumed⟩ := Prod.mk.inj hcode
  obtain ⟨origin, tally, limit, answer, rfl, hinterpret, hrep⟩ :=
    CallM.eq_waiting_of_retryable? hretryable
  have hresult := (hlimit 5 origin tally limit answer run failure judged ⟨rfl, hstands⟩ hinterpret
    hrep).1 (Nat.le_of_eq hresumed.symm)
  rw [rehearse, hresult]
  exact congrArg some hcode

open Rehearsal in
/-- A redirect is told as a retry, and it uses up the limit for retries. -/
theorem redirect_told_as_retry :
    let retried := rehearse client expired unsigned (client.start 0) paid
      [elsewhere, .timeout, .answering .ok {}]
    let refused := rehearse oneRetry expired unsigned (oneRetry.start 0) paid [elsewhere, .timeout]
    retried.journal.admitted = 1 ∧ retried.journal.filterMap Event.retriesTold? = [1, 1] ∧
      retried.journal.dispatches.map (fun (r, _, _) => r.headers.text? CallM.retryHeader) =
        [some "0/0/500", some "1/0/500", some "2/0/495"] ∧
      refused.journal.admitted = 0 ∧ refused.journal.filterMap Event.retriesTold? = [] ∧
      failureCode? refused.result = some .timeout := by
  simp only [Rehearsal.rehearse, Client.call, CallM.call, CallM.conduct,
    CallM.attempts_eq_turnsIn]
  decide +kernel

end ServiceCall
