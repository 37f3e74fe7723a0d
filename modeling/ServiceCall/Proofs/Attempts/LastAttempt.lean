import ServiceCall.Proofs.Attempts.Bounds
import ServiceCall.Proofs.Call.Marks

/-!
The last attempt of a call. A result is the one that the handler has for the last answer, and a
failure is that of the last attempt, unless the call itself has stopped; whatever came of earlier
attempts has left no trace in it.
-/

namespace ServiceCall

variable {σ α : Type}

/-! ### Attempts that are counted -/

theorem started_dependsOn (n : Nat) :
    DependsOn [.records .attemptStarted] fun run : Run σ => run.journal.started = n := by
  intro effects run run' hn hf h
  obtain ⟨new, hnew, hk⟩ := hf.journal
  have hnone : Journal.started new = 0 := by
    refine List.countP_eq_zero.mpr fun e he hstart => ?_
    cases e <;> first | exact hn _ (.head _) (hk _ he) | exact Bool.false_ne_true hstart
  rw [hnew, Journal.started, List.countP_append]
  exact (congrArg (_ + ·) hnone).trans h

namespace CallM

variable {s : CallSetting σ α} {run : Run σ}

/-- What neither a request that is sent nor an answer touches still holds after an attempt. -/
theorem attempt_leaves {authAllowed : Bool} {watched : List Effect} {I : Run σ → Prop}
    (hI : DependsOn watched I) (hout : ∀ effect ∈ watched, effect ∉ sendOutEffects)
    (hback : ∀ effect ∈ watched, effect ∉ arriveEffects) (h : I run) (directive : Directive σ)
    (number : Nat) :
    Ends (attempt s directive number : CallM σ (Outcome σ α authAllowed)) run
      (Outcome.Leaves s (fun _ => I) I) fun _ => I := by
  rw [attempt_eq_sendOut]
  refine ((sendOut_footprint s directive number).keeps hI hout h).bind fun sent _ h => ?_
  exact (answerInvariant_of_apart hI hback).answerRule.interpret h sent.1 sent.2

/-! ### How a turn fails -/

/-- A turn up to its attempt: it has been counted, and its request is as it was at the outset. -/
def outfit (s : CallSetting σ α) (o : Origin) (tally : Tally) (directive : Directive σ) :
    CallM σ Unit := do
  checkInterruption s
  startAttempt s directive (tally.attempts + 1)
  prepare o directive

/-- The attempt of a turn. -/
def attemptOf (s : CallSetting σ α) (tally : Tally) (directive : Directive σ) :
    CallM σ (Outcome σ α (decide (tally.authRetries < s.limits.authRetries))) :=
  attempt s directive (tally.attempts + 1)

/-- The failures with which an attempt stops before its request is sent. -/
def unsentCodes : List ErrorCode :=
  [.credentials, .deadlineExceeded, .interrupted, .invalidHeaderName, .invalidHeaderValue, .signing]

theorem mem_unsentCodes {code : ErrorCode} : .fails code ∈ sendOutEffects → code ∈ unsentCodes := by
  cases code <;> decide

/-- How the attempt of a turn fails for good: its request was not sent, or its answer does not let
it go on. In neither case does it matter what the turn is there for. -/
inductive Raises (s : CallSetting σ α) (tally : Tally) (directive : Directive σ) (ready : Run σ)
    (e : Error) : Prop where
  | unsent {stopped : Run σ}
    (stops : sendOut s directive (tally.attempts + 1) ready = .error e stopped)
    (code : e.code ∈ unsentCodes)
  | answered {limit : Option Duration} {answer : Answer} {sent : Run σ}
    (sends : sendOut s directive (tally.attempts + 1) ready = .ok (limit, answer) sent)
    (defeats : Defeats s sent answer e)

/-- How a turn fails that has started so many attempts. The failure is that of its attempt, as it
was, or one of the call itself: before the attempt, or after it because there were too many
redirects. -/
inductive Exits (s : CallSetting σ α) (o : Origin) (tally : Tally) (directive : Directive σ)
    (run : Run σ) : Nat → Error → Prop where
  | interrupted {e : Error} {stopped : Run σ} (stops : checkInterruption s run = .error e stopped)
    (code : e.code = .deadlineExceeded ∨ e.code = .interrupted) : Exits s o tally directive run 0 e
  | unprepared {e : Error} {stopped : Run σ}
    (stops : outfit s o tally directive run = .error e stopped)
    (code : e.code = .streamReset ∨ e.code = .invalidUri) : Exits s o tally directive run 1 e
  | failed {e : Error} {ready stopped : Run σ}
    (prepared : outfit s o tally directive run = .ok () ready)
    (fails : attemptOf s tally directive ready = .error e stopped)
    (raises : Raises s tally directive ready e) : Exits s o tally directive run 1 e
  | exhausted {e : Error} {ready judged : Run σ}
    (prepared : outfit s o tally directive run = .ok () ready)
    (fails : attemptOf s tally directive ready = .ok (.retryable e) judged) :
    Exits s o tally directive run 1 e
  | tooFar {target : Uri} {ready judged : Run σ}
    (prepared : outfit s o tally directive run = .ok () ready)
    (leads : attemptOf s tally directive ready = .ok (.redirect target) judged)
    (used : s.limits.redirects ≤ tally.redirects) :
    Exits s o tally directive run 1 (.redirectLimitExceeded s.limits.redirects
      judged.request.method judged.request.loggedUri)

variable {o : Origin} {tally : Tally} {directive : Directive σ}

theorem attemptOf_raises :
    Ends (attemptOf s tally directive) run (fun _ _ => True)
      fun e _ => Raises s tally directive run e := by
  rw [attemptOf, attempt_eq_sendOut]
  have hsent := ((sendOut_footprint s directive (tally.attempts + 1)).ends run).and
    (ends_self (sendOut s directive (tally.attempts + 1)) run)
  refine (hsent.mono_failed ?_).bind fun sent sentRun h =>
    (interpret_defeats sent.1 sent.2 sentRun).mono_failed fun e _ hdefeats => ?_
  · rintro e stopped ⟨⟨-, hcode⟩, hstops⟩
    exact .unsent hstops (mem_unsentCodes hcode)
  · exact .answered h.2 hdefeats

theorem turn_eq_outfit :
    turn s o tally directive = outfit s o tally directive >>= fun _ =>
      onFailure (attemptOf s tally directive) countFailedAttempt >>= conclude s o tally := by
  simp only [turn, outfit, attemptOf, bind_assoc]

theorem outfit_ends (s : CallSetting σ α) (o : Origin) (tally : Tally) (directive : Directive σ)
    (run : Run σ) :
    Ends (outfit s o tally directive) run
      (fun _ ready => ready.journal.started = run.journal.started + 1)
      fun e stopped => ∃ k, Exits s o tally directive run k e ∧
        stopped.journal.started = run.journal.started + k := by
  have hstops : Ends (outfit s o tally directive) run
      (fun _ ready => ready.journal.started = run.journal.started + 1)
      fun e stopped => outfit s o tally directive run = .error e stopped → ∃ k,
        Exits s o tally directive run k e ∧
          stopped.journal.started = run.journal.started + k := by
    show Ends (do checkInterruption s; startAttempt s directive _; prepare o directive) run _ _
    refine (((checkInterruption_footprint s).keepsIn (started_dependsOn run.journal.started)
      (by decide) rfl).and (ends_self _ run)).mono_failed ?_ |>.bind fun _ ready h => ?_
    · rintro e stopped ⟨⟨hcode, hstarted⟩, hstop⟩ -
      exact ⟨0, .interrupted hstop (by simpa using hcode), hstarted⟩
    · refine (startAttempt_ends s directive _ ready).bind fun _ counted hf => ?_
      have hstarted : counted.journal.started = run.journal.started + 1 := by
        rw [hf.journal_eq (by simp), Journal.started, Journal.countP_concat]
        exact congrArg (· + 1) h.1
      refine ((prepare_footprint o directive).keepsIn (started_dependsOn _) (by decide)
        hstarted).mono (fun _ _ h => h) fun e stopped h hstop => ?_
      exact ⟨1, .unprepared hstop
        (by simpa [prepareEffects, bodyEffects, directEffects] using h.1), h.2⟩
  exact (hstops.and (ends_self _ run)).mono (fun _ _ h => h.1) fun _ _ h => h.1 h.2

/-- A turn that fails does so in one of these ways. -/
theorem turn_exits (s : CallSetting σ α) (o : Origin) (tally : Tally) (directive : Directive σ)
    (run : Run σ) :
    Ends (turn s o tally directive) run (fun _ _ => True)
      fun e stopped => ∃ k, Exits s o tally directive run k e ∧
        stopped.journal.started = run.journal.started + k := by
  rw [turn_eq_outfit]
  refine (((outfit_ends s o tally directive run).and (ends_self _ run)).mono_failed
    fun _ _ h => h.1).bind fun _ ready h => ?_
  obtain ⟨hstarted, hready⟩ := h
  have hattempt : Ends (attemptOf s tally directive) ready
      (Outcome.Leaves s (fun _ run' => run'.journal.started = run.journal.started + 1)
        fun run' => run'.journal.started = run.journal.started + 1)
      fun _ run' => run'.journal.started = run.journal.started + 1 :=
    attempt_leaves (started_dependsOn _) (by decide) (by decide) hstarted directive _
  refine Ends.bind (ends_onFailure.mpr
    (((hattempt.and attemptOf_raises).and (ends_self _ ready)).mono_failed ?_))
    fun outcome judged h => ?_
  · rintro e stopped ⟨⟨h, hraises⟩, hfails⟩
    exact ⟨1, .failed hready hfails hraises, h⟩
  · obtain ⟨⟨hleft, -⟩, hjudged⟩ := h
    have hkept := conclude_ends (o := o) (started_dependsOn (run.journal.started + 1)) (by decide)
      (fun failure number _ h =>
        (admits_footprint s o failure number).keeps (started_dependsOn _) (by decide) h) hleft
    suffices hexits : Ends (conclude s o tally outcome) judged (fun _ _ => True)
        fun e _ => Exits s o tally directive run 1 e from
      (hexits.and hkept).mono (fun _ _ _ => trivial) fun e stopped h => ⟨1, h.1, h.2⟩
    cases outcome with
    | success response => trivial
    | redirect target =>
      unfold conclude
      dsimp only
      split
      · rw [ends_bind, ends_countForClient]
        trivial
      · next hused => exact .tooFar hready hjudged (Nat.le_of_not_lt hused)
    | authRetry parameters allowed => trivial
    | retryable failure =>
      refine conclude_ends_of_retryable (fun _ _ _ => .exhausted hready hjudged)
        fun _ _ _ admitted _ _ => ?_
      cases admitted with
      | false => exact .exhausted hready hjudged
      | true => exact fun _ _ _ => trivial

/-! ### How a turn succeeds -/

variable {limit : Option Duration} {answer : Answer} {response : Response α}

/-- A turn finishes the call only with what the handler has made of its answer. -/
theorem arrive_fulfills :
    Ends (arrive s o tally limit answer) run
      (fun t _ => ∀ response, t = .finished response → Fulfills s run answer response)
      fun _ _ => True := by
  unfold arrive
  refine Ends.bind (ends_onFailure.mpr ((interpret_marks limit answer rfl).mono_failed
    fun _ _ _ => trivial)) fun outcome judged h => ?_
  refine (conclude_leads o tally outcome judged).mono_ok ?_
  rintro t _ hleads response rfl
  subst hleads
  exact h.1

/-- What the handler makes of an answer finishes the call. -/
theorem arrive_of_fulfills (h : Fulfills s run answer response) :
    ∃ last, arrive s o tally limit answer run = .ok (.finished response) last := by
  cases h with
  | @handled read left handled world readable handles =>
    cases answer with
    | error e => cases readable
    | ok r =>
      have hinterpret : Ends (interpret s limit (.ok r)) run
          (fun (outcome : Outcome σ α (decide (tally.authRetries < s.limits.authRetries))) _ =>
            outcome = .success (handled.respond read.status left)) fun _ _ => False := by
        refine (ends_congr (onResponse_eq_handleResult readable)).mpr ?_
        unfold handleResult
        rw [ends_bind, ends_record, ends_bind, ends_perform, handles]
        refine (complete_ends read.status handled left _).bind fun response _ h => ?_
        exact congrArg Outcome.success h.1
      obtain ⟨_, judged, heq, rfl⟩ := hinterpret.exists_ok
      refine ⟨judged, ?_⟩
      simp only [arrive, onFailure, bind, EStateM.bind, heq]
      rfl

end CallM

/-! ### Going back to the last attempt -/

namespace Client

variable {c : Client σ} {handlers : Handlers σ α} {context : CallContext σ} {state : ClientState}
  {request : HttpRequest σ} {world : σ}

/-- A request was sent by the attempt before. -/
theorem StandsAfter.exists_ready {n : Nat} {o : Origin} {tally : Tally} {limit : Option Duration}
    {answer : Answer} {run : Run σ}
    (h : c.StandsAfter handlers context state request world n (.waiting o tally limit answer) run) :
    ∃ k directive ready,
      c.StandsAfter handlers context state request world k (.ready o tally directive) ready ∧
      CallM.depart (c.settingAt handlers context request world) o tally directive ready =
        .ok (limit, answer) run := by
  cases n with
  | zero => cases h.2
  | succ n =>
    obtain ⟨before, ready, hbefore, hstep⟩ := h.exists_before
    cases before with
    | ready o' tally' directive =>
      rcases CallM.eq_of_phaseAfter hstep with ⟨sent, hdepart, hphase⟩ | ⟨_, -, hphase⟩
      · obtain ⟨rfl, rfl, rfl, rfl⟩ := Phase.waiting.inj hphase
        exact ⟨n, directive, ready, hbefore, hdepart⟩
      · cases hphase
    | waiting o' tally' limit' answer' =>
      rcases CallM.eq_of_phaseAfter hstep with ⟨t, -, hphase⟩ | ⟨_, -, hphase⟩
      · cases t <;> cases hphase
      · cases hphase
    | failing e => cases hstep
    | ended result => cases hstep
    | _ => rcases CallM.eq_of_phaseAfter hstep with ⟨_, -, hphase⟩ | ⟨_, -, hphase⟩ <;> cases hphase

/-- A call that has a result has taken it from the answer before. -/
theorem StandsAfter.exists_fulfills {n : Nat} {response : Response α} {last : Run σ}
    (h : c.StandsAfter handlers context state request world n (.ended (.ok response)) last) :
    ∃ k o tally limit answer run,
      c.StandsAfter handlers context state request world k (.waiting o tally limit answer) run ∧
      Fulfills (c.settingAt handlers context request world) run answer response := by
  induction n with
  | zero => cases h.2
  | succ n ih =>
    obtain ⟨before, run, hbefore, hstep⟩ := h.exists_before
    cases before with
    | waiting o tally limit answer =>
      rcases CallM.eq_of_phaseAfter hstep with ⟨t, harrive, hphase⟩ | ⟨_, -, hphase⟩
      · cases t with
        | finished response' =>
          obtain rfl : response' = response := Except.ok.inj (Phase.ended.inj hphase)
          exact ⟨n, o, tally, limit, answer, run, hbefore,
            (CallM.ends_ok_iff harrive).mp CallM.arrive_fulfills response' rfl⟩
        | again tally' directive less => cases hphase
      · cases hphase
    | failing e => cases hstep
    | ended result =>
      obtain ⟨hphase, rfl⟩ := Prod.mk.inj hstep
      exact ih (hphase ▸ hbefore)
    | _ => rcases CallM.eq_of_phaseAfter hstep with ⟨_, -, hphase⟩ | ⟨_, -, hphase⟩ <;> cases hphase

/-- A call that is failing failed to set its mark, or failed with the turn before. -/
theorem StandsAfter.exists_failed {n : Nat} {e : Error} {stopped : Run σ}
    (h : c.StandsAfter handlers context state request world n (.failing e) stopped) :
    (∃ k begun, c.StandsAfter handlers context state request world k .begun begun ∧
      CallM.markOrigin begun = .error e stopped) ∨
    ∃ k o tally directive ready,
      c.StandsAfter handlers context state request world k (.ready o tally directive) ready ∧
      CallM.turn (c.settingAt handlers context request world) o tally directive ready =
        .error e stopped := by
  cases n with
  | zero => cases h.2
  | succ n =>
    obtain ⟨before, run, hbefore, hstep⟩ := h.exists_before
    cases before with
    | outset =>
      rcases CallM.eq_of_phaseAfter hstep with ⟨_, -, hphase⟩ | ⟨_, -, hphase⟩ <;> cases hphase
    | begun =>
      rcases CallM.eq_of_phaseAfter hstep with ⟨_, -, hphase⟩ | ⟨e', hmark, hphase⟩
      · cases hphase
      · exact .inl ⟨n, run, hbefore, Phase.failing.inj hphase ▸ hmark⟩
    | ready o tally directive =>
      rcases CallM.eq_of_phaseAfter hstep with ⟨_, -, hphase⟩ | ⟨e', hdepart, hphase⟩
      · cases hphase
      · obtain rfl := Phase.failing.inj hphase
        refine .inr ⟨n, o, tally, directive, run, hbefore, ?_⟩
        rw [CallM.turn_eq_depart]
        simp only [bind, EStateM.bind, hdepart]
    | waiting o tally limit answer =>
      rcases CallM.eq_of_phaseAfter hstep with ⟨t, -, hphase⟩ | ⟨e', harrive, hphase⟩
      · cases t <;> cases hphase
      · obtain rfl := Phase.failing.inj hphase
        obtain ⟨k, directive, ready, hready, hdepart⟩ := hbefore.exists_ready
        refine .inr ⟨k, o, tally, directive, ready, hready, ?_⟩
        rw [CallM.turn_eq_depart, CallM.bind_of_ok hdepart, harrive]
    | failing e' => cases hstep
    | ended result => cases hstep

/-- The failures that end a call before its first attempt. -/
def outsetCodes : List ErrorCode := [.invalidHeaderName, .invalidHeaderValue, .streamReset]

theorem mem_outsetCodes {code : ErrorCode} :
    .fails code ∈ CallM.beginEffects ++ CallM.outsetEffects → code ∈ outsetCodes := by
  cases code <;> decide

/-- A call that has failed did so before its first attempt, or with its last turn. -/
theorem StandsAfter.exists_exit {n : Nat} {e : Error} {last : Run σ}
    (h : c.StandsAfter handlers context state request world n (.ended (.error e)) last) :
    (last.journal.started = 0 ∧ e.code ∈ outsetCodes) ∨
    ∃ k o tally directive ready i,
      c.StandsAfter handlers context state request world k (.ready o tally directive) ready ∧
      CallM.Exits (c.settingAt handlers context request world) o tally directive ready i e ∧
      last.journal.started = tally.attempts + i := by
  have htallies := CallM.tallies_phaseInvariant (c.settingAt handlers context request world)
  have hgiveUp : ∀ {k : Nat} {run : Run σ}, run.journal.started = k →
      (CallM.giveUp (c.settingAt handlers context request world) run).journal.started = k :=
    fun h => started_dependsOn _ _ _ _ (by decide) (CallM.giveUp_frame _ _) h
  induction n with
  | zero => cases h.2
  | succ n ih =>
    obtain ⟨before, run, hbefore, hstep⟩ := h.exists_before
    cases before with
    | outset =>
      rcases CallM.eq_of_phaseAfter hstep with ⟨_, -, hphase⟩ | ⟨e', hlaunch, hphase⟩
      · cases hphase
      · obtain rfl : e' = e := Except.error.inj (Phase.ended.inj hphase)
        have hstart := (hbefore.invariant htallies (Tallied.nil _)).started
        obtain ⟨hcode, hstarted⟩ := (CallM.ends_error_iff hlaunch).mp
          ((CallM.launch_footprint _).keepsIn (started_dependsOn 0) (by decide) hstart)
        exact .inl ⟨hstarted, mem_outsetCodes hcode⟩
    | failing e' =>
      obtain ⟨hphase, rfl⟩ := Prod.mk.inj hstep
      obtain rfl : e' = e := Except.error.inj (Phase.ended.inj hphase)
      obtain ⟨k, begun, hbegun, hmark⟩ | ⟨k, o, tally, directive, ready, hready, hturn⟩ :=
        hbefore.exists_failed
      · have hstart := (hbegun.invariant htallies (Tallied.nil _)).started
        obtain ⟨hcode, hstarted⟩ := (CallM.ends_error_iff hmark).mp
          (CallM.markOrigin_footprint.keepsIn (started_dependsOn 0) (by decide) hstart)
        refine .inl ⟨hgiveUp hstarted, ?_⟩
        have hreset : e'.code = .streamReset := by simpa [CallM.bodyEffects] using hcode
        exact hreset ▸ (by decide)
      · obtain ⟨-, followed, -, htallied⟩ := hready.invariant htallies (Tallied.nil _)
        obtain ⟨i, hexits, hstarted⟩ :=
          (CallM.ends_error_iff hturn).mp (CallM.turn_exits _ o tally directive ready)
        refine .inr ⟨k, o, tally, directive, ready, i, hready, hexits, hgiveUp ?_⟩
        rw [hstarted, htallied.started]
    | ended result =>
      obtain ⟨hphase, rfl⟩ := Prod.mk.inj hstep
      exact ih (hphase ▸ hbefore)
    | waiting o tally limit answer =>
      rcases CallM.eq_of_phaseAfter hstep with ⟨t, -, hphase⟩ | ⟨_, -, hphase⟩
      · cases t <;> cases hphase
      · cases hphase
    | _ => rcases CallM.eq_of_phaseAfter hstep with ⟨_, -, hphase⟩ | ⟨_, -, hphase⟩ <;> cases hphase

/-- No more attempts are started once the call is over. -/
theorem StandsAfter.started_eq {n : Nat} {result : Except Error (Response α)} {conducted : Run σ}
    (h : c.StandsAfter handlers context state request world n (.ended result) conducted) :
    (c.call handlers context state request world).1.journal.started =
      conducted.journal.started := by
  obtain ⟨last, hframe, hreport⟩ := h.reports
  rw [hreport.journal]
  exact started_dependsOn _ _ _ _ (by decide) hframe rfl

/-- What the handler makes of an answer is the result, and nothing is sent after it. -/
theorem StandsAfter.result_of_fulfills {n : Nat} {o : Origin} {tally : Tally}
    {limit : Option Duration} {answer : Answer} {run : Run σ} {response : Response α}
    (h : c.StandsAfter handlers context state request world n (.waiting o tally limit answer) run)
    (hfulfills : Fulfills (c.settingAt handlers context request world) run answer response) :
    let report := (c.call handlers context state request world).1
    report.result = .ok response ∧ report.journal.started = tally.attempts + 1 ∧
      c.answers handlers context state request world =
        c.answersAfter handlers context state request world n ++ [answer] := by
  intro report
  obtain ⟨last, harrive⟩ : ∃ last, CallM.arrive (c.settingAt handlers context request world) o tally
      limit answer run = .ok (.finished response) last := CallM.arrive_of_fulfills hfulfills
  have hended := h.next
  rw [CallM.step, CallM.phaseAfter_of_ok harrive] at hended
  obtain ⟨_, -, hreport⟩ := hended.reports
  refine ⟨hreport.result, ?_, ?_⟩
  · have htallied := (h.invariant (CallM.tallies_phaseInvariant _) (Tallied.nil _)).started
    have hkept := (CallM.ends_ok_iff harrive).mp
      (CallM.arrive_keeps (started_dependsOn _) (by decide) htallied)
    exact hended.started_eq.trans hkept
  · rw [← hended.answersAfter_eq, h.answersAfter_succ]
    rfl

end Client

/-- The result of a call that is not refused is that of its last attempt. It is what the handler has
made of the last answer, after which nothing was sent any more; or it is the failure of the attempt
that was started last, raised by its own request or answer, which was not retried, not sent elsewhere
and not authenticated again; or the call has stopped by itself. Hooks and metrics are told nothing
else. -/
theorem result_of_call (c : Client σ) (handlers : Handlers σ α) (context : CallContext σ)
    (state : ClientState) (request : HttpRequest σ) (world : σ)
    (hs : state.isShutDown = false) :
    let s := c.settingAt handlers context request world
    let called := c.call handlers context state request world
    let answers := c.answers handlers context state request world
    (∀ response, called.1.result = .ok response → ∃ n o tally limit r run,
      c.StandsAfter handlers context state request world n (.waiting o tally limit (.ok r)) run ∧
      called.1.journal.started = tally.attempts + 1 ∧ answers.getLast? = some (.ok r) ∧
      Fulfills s run (.ok r) response) ∧
    (∀ n o tally limit answer run response,
      c.StandsAfter handlers context state request world n (.waiting o tally limit answer) run →
      Fulfills s run answer response →
      called.1.result = .ok response ∧ called.1.journal.started = tally.attempts + 1 ∧
      answers = c.answersAfter handlers context state request world n ++ [answer]) ∧
    (∀ e, called.1.result = .error e →
      (called.1.journal.started = 0 ∧ e.code ∈ Client.outsetCodes) ∨
      ∃ n o tally directive ready i,
        c.StandsAfter handlers context state request world n (.ready o tally directive) ready ∧
        CallM.Exits s o tally directive ready i e ∧
        called.1.journal.started = tally.attempts + i) ∧
    ∃ n conducted,
      c.StandsAfter handlers context state request world n (.ended called.1.result) conducted ∧
      called.2 = (s.tellCollector conducted.metrics (s.tellResult request.subject.listener
        conducted.request called.1.result conducted.world).2).2 ∧
      called.1.client.metrics = s.counted
        (fun m => (m.completed conducted.metrics.status called.1.result).ended)
        conducted.client.metrics := by
  intro s called answers
  obtain ⟨n, -, result, conducted, last, hended, -, hreport⟩ :=
    @Client.exists_standsAfter_ended σ α c handlers context state request world hs
  obtain rfl : result = called.1.result := hreport.result.symm
  refine ⟨fun response hresult => ?_, fun n o tally limit answer run response hwaiting hfulfills =>
    hwaiting.result_of_fulfills hfulfills, fun e hresult => ?_, n, conducted, hended, ?_, ?_⟩
  · rw [hresult] at hended
    obtain ⟨k, o, tally, limit, answer, run, hwaiting, hfulfills⟩ := hended.exists_fulfills
    obtain ⟨-, hstarted, hanswers⟩ := hwaiting.result_of_fulfills hfulfills
    cases answer with
    | error e =>
      cases hfulfills with
      | handled readable _ => cases readable
    | ok r =>
      exact ⟨k, o, tally, limit, r, run, hwaiting, hstarted,
        by rw [show answers = _ from hanswers, List.getLast?_concat], hfulfills⟩
  · have hstarted := hended.started_eq
    rw [hresult] at hended
    rw [show called.1.journal.started = _ from hstarted]
    exact hended.exists_exit
  · rw [show called = _ from hended.call_eq]
    rfl
  · rw [show called = _ from hended.call_eq]
    rfl

theorem exists_ok_of_isOk {result : Except Error (Response α)} (h : result.isOk = true) :
    ∃ response, result = .ok response := by
  cases result with
  | ok response => exact ⟨response, rfl⟩
  | error e => exact (Bool.false_ne_true h).elim

open Rehearsal in
/-- A call succeeds when it is retried after its time ran out, and another one fails for good when
it has been retried as often as it may be. -/
theorem result_of_call_elsewhere :
    let state := client.start 0
    let answered : Stage := { steps := [.timeout, .answering .ok {}] }
    let lost : Stage := { steps := List.replicate 4 .timeout }
    state.isShutDown = false ∧
      (∃ n o tally limit r run response,
        client.StandsAfter (handlers expired) unsigned state paid answered n
          (.waiting o tally limit (.ok r)) run ∧
        tally.attempts = 1 ∧
        Fulfills (client.settingAt (handlers expired) unsigned paid answered) run (.ok r)
          response) ∧
      ∃ n o tally directive ready i e,
        client.StandsAfter (handlers expired) unsigned state paid lost n
          (.ready o tally directive) ready ∧
        CallM.Exits (client.settingAt (handlers expired) unsigned paid lost) o tally directive ready
          i e ∧ tally.attempts + i = 4 ∧ e.code = .timeout := by
  intro state answered lost
  refine ⟨rfl, ?_, ?_⟩
  · obtain ⟨hok, -⟩ :=
      result_of_call client (handlers expired) unsigned state paid answered rfl
    have hfacts :
        (client.call (handlers expired) unsigned state paid answered).1.result.isOk = true ∧
        (client.call (handlers expired) unsigned state paid answered).1.journal.started = 2 := by
      simp only [Client.call, CallM.call, CallM.conduct, CallM.attempts_eq_turnsIn]
      decide +kernel
    obtain ⟨hresult, htwo⟩ := hfacts
    obtain ⟨response, hresponse⟩ := exists_ok_of_isOk hresult
    obtain ⟨n, o, tally, limit, r, run, hwaiting, hstarted, -, hfulfills⟩ := hok response hresponse
    exact ⟨n, o, tally, limit, r, run, response, hwaiting, by omega, hfulfills⟩
  · obtain ⟨-, -, hfailed, -⟩ :=
      result_of_call client (handlers expired) unsigned state paid lost rfl
    have hfacts : failureCode? (client.call (handlers expired) unsigned state paid lost).1.result =
        some .timeout ∧
        (client.call (handlers expired) unsigned state paid lost).1.journal.started = 4 := by
      simp only [Client.call, CallM.call, CallM.conduct, CallM.attempts_eq_turnsIn]
      decide +kernel
    obtain ⟨hresult, hfour⟩ := hfacts
    obtain ⟨e, he, hcode⟩ := eq_error_of_failureCode? hresult
    obtain ⟨hnone, -⟩ | ⟨n, o, tally, directive, ready, i, hready, hexits, hstarted⟩ := hfailed e he
    · omega
    · exact ⟨n, o, tally, directive, ready, i, e, hready, hexits, by omega, hcode⟩

end ServiceCall
