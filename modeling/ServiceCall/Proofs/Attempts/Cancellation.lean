import ServiceCall.Proofs.Attempts.Interruption
import ServiceCall.Proofs.Attempts.Stream

/-!
Cancellation. A flag that is set while a call is under way, be it before the call, during an
exchange or during a pause of any length, keeps the call from starting another attempt and from
sending anything more; what the call tells in the end is the reason for which it has stopped.
-/

namespace ServiceCall

variable {σ α : Type}

/-- Nothing is started or sent. -/
def Journal.Idle (j : Journal σ) : Prop :=
  ∀ e ∈ j, e.kind ≠ .attemptStarted ∧ e.kind ≠ .dispatched

/-- An alarm is the end of all attempts. -/
theorem Journal.Obeys.idle {s : CallSetting σ α} {before after : Journal σ} {alarm : Event σ}
    (h : (before ++ alarm :: after).Obeys (Journal.Heeds s))
    (halarm : alarm.isAlarm s.budget = true) : after.Idle := by
  have hunclear : ∀ between : Journal σ, ¬(before ++ alarm :: between).Clear s.budget := by
    intro between hclear
    rw [hclear alarm (by simp)] at halarm
    cases halarm
  intro e he
  obtain ⟨between, later, rfl⟩ := List.append_of_mem he
  have hlaw := h (before ++ alarm :: between) e later (by simp)
  constructor
  · intro hkind
    cases e <;> first | exact hunclear _ hlaw | cases hkind
  · intro hkind
    cases e <;> first | exact hunclear _ hlaw.1 | cases hkind

/-! ### Looking at the flag -/

/-- Whoever looks is told the truth, and the flag stays set while the clock is read. -/
structure Surroundings.Minds (x : Surroundings σ) (token : CancelToken) (raised : σ → Prop)
    (time : σ → Nat) : Prop where
  told : ∀ world, (x.isCancelled token world).1 = true ↔ raised world
  clock : ∀ world, raised world → raised (x.now world).2
  pause : ∀ wait world, Sleeps raised time (time world + wait.nanos) world
    (x.pause token wait world).1 (x.pause token wait world).2

/-- A pause of any length tells of a flag that is set when it begins or when it ends. -/
theorem Surroundings.Minds.cancelled_of_raised {x : Surroundings σ} {token : CancelToken}
    {raised : σ → Prop} {time : σ → Nat} (h : x.Minds token raised time) {wait : Duration}
    {world : σ} (hset : raised world ∨ raised (x.pause token wait world).2) :
    (x.pause token wait world).1 = true := by
  have hsleeps := h.pause wait world
  rcases hset with hset | hset
  · exact (hsleeps.of_raised hset).1
  · exact hsleeps.answer_iff.mpr hset

namespace CallM

variable {s : CallSetting σ α} {o : Origin} {tally : Tally} {directive : Directive σ}
  {failure : Error} {run : Run σ} {raised : σ → Prop} {time : σ → Nat} {j : Journal σ}

theorem checkInterruption_fails (hminds : s.client.surroundings.Minds s.context.cancel raised time)
    (h : raised run.world) : Ends (checkInterruption s) run (fun _ _ => False) fun _ _ => True := by
  have hclock : Ends (timeIsUp s) run (fun _ run' => raised run'.world) fun _ _ => True := by
    unfold timeIsUp
    split
    · simp only [readClock, ends_bind, ends_perform, ends_record, ends_pure]
      exact hminds.clock _ h
    · exact h
  unfold checkInterruption
  refine hclock.bind fun up clocked h => ?_
  cases up with
  | true => trivial
  | false =>
    simp only [Bool.false_eq_true, if_false, readFlag, ends_bind, ends_perform, ends_record,
      ends_pure, (hminds.told _).mpr h]
    trivial

/-- No attempt is started when the flag is set. -/
theorem depart_stops (hminds : s.client.surroundings.Minds s.context.cancel raised time)
    (hset : raised run.world) (h : Follows j (fun _ => True) run) :
    Ends (depart s o tally directive) run (fun _ _ => False) fun _ => Follows j fun _ => True := by
  unfold depart
  refine ((((checkInterruption_footprint s).keeps (follows_dependsOn j) (by decide) h).and
    (checkInterruption_fails hminds hset)).mono_failed fun _ _ h => h.1).bind ?_
  rintro _ _ ⟨-, hfalse⟩
  exact hfalse.elim

/-- Whatever phase a call is in: if the flag is set, nothing is started or sent by the next
step. -/
theorem step_stops (hminds : s.client.surroundings.Minds s.context.cancel raised time)
    {phase : Phase σ α} (hset : raised run.world) (h : Follows j (fun _ => True) run) :
    Follows j (fun _ => True) (step s (phase, run)).2 := by
  have hdepends := follows_dependsOn j
  -- Only a turn looks at the flag; no other step starts or sends anything.
  cases phase with
  | outset =>
    exact Ends.phaseAfter (P := fun _ => Follows j _)
      ((launch_footprint s).keeps hdepends (by decide) h)
  | begun =>
    exact Ends.phaseAfter (P := fun _ => Follows j _)
      (markOrigin_footprint.keeps hdepends (by decide) h)
  | ready o tally directive =>
    exact Ends.phaseAfter (P := fun _ => Follows j _)
      ((depart_stops hminds hset h).mono (fun _ _ h => h.elim) fun _ _ h => h)
  | waiting o tally limit answer =>
    refine Ends.phaseAfter (P := fun _ => Follows j _)
      ((arrive_keeps hdepends (by decide) h).mono (fun t _ h => ?_) fun _ _ h => h)
    cases t with
    | finished response => exact h
    | again tally' directive' less => exact h.2
  | failing e => exact hdepends _ _ _ (by decide) (giveUp_frame s run) h
  | ended result => exact h

/-! ### A turn with a pause -/

/-- An attempt for a retry up to its pause, which is planned by then. -/
def lieDown (s : CallSetting σ α) (failure : Error) (number : Nat) :
    CallM σ (Option Credentials × Duration × Bool) := do
  checkInterruption s
  let credentials ← loadCredentials s
  announce .retryStarted
  let failed := failedBefore (← request) failure number
  let delay ← perform (s.client.config.retryPolicy.backoff failed)
  record (.backoffAsked failed delay)
  modify fun run => { run with lastBackoff := delay }
  return (credentials, ← planWait s delay)

/-- A turn for a retry up to its pause. -/
def settleDown (s : CallSetting σ α) (o : Origin) (tally : Tally) (failure : Error) :
    CallM σ (Option Credentials × Duration × Bool) := do
  checkInterruption s
  startAttempt s (.retry failure) (tally.attempts + 1)
  prepare o (.retry failure)
  onFailure (lieDown s failure (tally.attempts + 1)) countFailedAttempt

theorem approach_eq_lieDown (s : CallSetting σ α) (failure : Error) (number : Nat) :
    approach s (.retry failure) number = (do
      let (credentials, wait, reachesEnd) ← lieDown s failure number
      rest s wait reachesEnd
      return credentials) := by
  have hbegin : beginAgain s (.retry failure) number = (do
      announce .retryStarted
      pauseAfter s failure number) := rfl
  simp only [approach, hbegin, pauseAfter, lieDown, rest, resume, failedBefore, bind_assoc,
    pure_bind]

theorem depart_eq_settleDown (s : CallSetting σ α) (o : Origin) (tally : Tally)
    (failure : Error) : depart s o tally (.retry failure) = (do
      let (credentials, wait, reachesEnd) ← settleDown s o tally failure
      onFailure (do
        rest s wait reachesEnd
        stampRetryHeader (tally.attempts + 1)
        let signer ← bindSigner s (.retry failure)
        signWith signer credentials
        sendOff s) countFailedAttempt) := by
  have hsend : sendOut s (.retry failure) (tally.attempts + 1) = (do
      let (credentials, wait, reachesEnd) ← lieDown s failure (tally.attempts + 1)
      rest s wait reachesEnd
      stampRetryHeader (tally.attempts + 1)
      let signer ← bindSigner s (.retry failure)
      signWith signer credentials
      sendOff s) := by
    simp only [sendOut, approach_eq_lieDown, sendOff, bind_assoc, pure_bind]
  simp only [depart, settleDown, hsend, bind_assoc]
  congr 1
  funext _
  congr 1
  funext _
  congr 1
  funext _
  exact onFailure_bind _ _ _

/-- What is told during the pause of a turn ends the call with it. -/
theorem depart_stops_of_rest {credentials : Option Credentials} {wait : Duration}
    {reachesEnd : Bool} {resting : Run σ}
    (hrest : settleDown s o tally failure run = .ok (credentials, wait, reachesEnd) resting)
    (hcancelled : (s.client.surroundings.pause s.context.cancel wait resting.world).1 = true) :
    Ends (depart s o tally (.retry failure)) run (fun _ _ => False)
      fun _ => Follows resting.journal fun _ => True := by
  have hcount : ∀ run, Follows resting.journal (fun _ => True) run →
      Follows resting.journal (fun _ => True) (countFailedAttempt run) := fun run h =>
    follows_dependsOn _ _ _ _ (by decide) (countFailedAttempt_frame run) h
  have hpaused : Follows resting.journal (fun _ => True) { resting with
      world := (s.client.surroundings.pause s.context.cancel wait resting.world).2
      journal := resting.journal ++ [.paused wait true] } :=
    ⟨_, rfl, by simp [Event.kind], trivial⟩
  rw [depart_eq_settleDown, ends_bind, ends_ok_iff hrest, ends_onFailure, ends_bind]
  simp only [rest, ends_bind, ends_perform, ends_record, hcancelled]
  refine resume_ends fun up run' hclocked => ?_
  have hstopped : Follows resting.journal (fun _ => True) run' := by
    cases hclocked with
    | unlimited limit => exact hpaused
    | read limit now world => exact hpaused.append rfl (by simp [Event.kind]) fun _ _ => trivial
  cases up with
  | true => exact hcount _ hstopped
  | false => exact hcount _ hstopped

end CallM

/-! ### The end of the call -/

namespace Client

variable {c : Client σ} {handlers : Handlers σ α} {context : CallContext σ} {state : ClientState}
  {request : HttpRequest σ} {world : σ} {n : Nat} {run : Run σ} {raised : σ → Prop}
  {time : σ → Nat}

/-- What a call that is over has done since is in its report. -/
theorem idle_of_follows {j : Journal σ} {result : Except Error (Response α)}
    {report : CallReport σ α} {conducted last : Run σ}
    (h : CallM.Follows j (fun _ => True) conducted)
    (hframe : Frame CallM.finishEffects conducted last) (hreport : Reports report result last) :
    ∃ since, report.journal = j ++ since ∧ since.Idle := by
  obtain ⟨since, hsince, hidle, -⟩ := CallM.follows_dependsOn j _ _ _ (by decide) hframe h
  exact ⟨since, hreport.journal.trans hsince, hidle⟩

/-- If the flag is set after some step and stays so, nothing is started or sent after this
step. -/
theorem StandsAfter.idle_of_raised {phase : Phase σ α}
    (hminds : c.surroundings.Minds context.cancel raised time)
    (hstays : ∀ n phase run, c.StandsAfter handlers context state request world n phase run →
      raised run.world →
        raised (CallM.step (c.settingAt handlers context request world) (phase, run)).2.world)
    (h : c.StandsAfter handlers context state request world n phase run)
    (hset : raised run.world) :
    ∃ since, (c.call handlers context state request world).1.journal = run.journal ++ since ∧
      since.Idle := by
  obtain ⟨result, conducted, last, ⟨-, hfollows⟩, hframe, hreport⟩ :=
    h.exists_ended
      (P := fun _ later => raised later.world ∧ CallM.Follows run.journal (fun _ => True) later)
      (fun later phase run hstands hlater =>
        ⟨hstays later phase run hstands hlater.1, CallM.step_stops hminds hlater.1 hlater.2⟩)
      ⟨hset, [], (List.append_nil _).symm, by simp, trivial⟩
  exact idle_of_follows hfollows hframe hreport

/-- If the flag is set when a pause begins or when it ends, nothing is started or sent after
it. -/
theorem StandsAfter.idle_of_rest {o : Origin} {tally : Tally} {failure : Error}
    {credentials : Option Credentials} {wait : Duration} {reachesEnd : Bool} {resting : Run σ}
    (hminds : c.surroundings.Minds context.cancel raised time)
    (h : c.StandsAfter handlers context state request world n (.ready o tally (.retry failure)) run)
    (hrest : CallM.settleDown (c.settingAt handlers context request world) o tally failure run =
      .ok (credentials, wait, reachesEnd) resting)
    (hset : raised resting.world ∨
      raised (c.surroundings.pause context.cancel wait resting.world).2) :
    ∃ since, (c.call handlers context state request world).1.journal = resting.journal ++ since ∧
      since.Idle := by
  have hstops := CallM.depart_stops_of_rest hrest (hminds.cancelled_of_raised hset)
  have hnext := h.next
  unfold CallM.Ends at hstops
  split at hstops
  · exact hstops.elim
  · next e run' heq =>
    rw [CallM.step, CallM.phaseAfter_of_error heq] at hnext
    obtain ⟨last, hframe, hreport⟩ := hnext.next.reports
    have hfollows := CallM.follows_dependsOn resting.journal _ _ _ (by decide)
      (CallM.giveUp_frame (c.settingAt handlers context request world) run') hstops
    exact idle_of_follows hfollows hframe hreport

/-- Where the attempts end, the failure answers the alarm, if there has been one. What a call does
afterwards is neither an alarm nor changes what its failure says of the request. -/
theorem report_heeds :
    let s := c.settingAt handlers context request world
    let report := (c.call handlers context state request world).1
    report.journal.Obeys (Journal.Heeds s) ∧
      (report.journal.Clear s.budget ∨ ∃ failure, report.result = .error failure ∧
        Answers s failure report.journal report.request) := by
  intro s report
  cases hs : state.isShutDown with
  | true =>
    rw [show report = _ from call_of_isShutDown hs]
    exact ⟨Journal.obeys_nil _, .inl (by simp [Journal.Clear])⟩
  | false =>
    obtain ⟨n, -, result, conducted, last, hstands, hframe, hreport⟩ :=
      @exists_standsAfter_ended σ α c handlers context state request world hs
    have hheeds := hstands.invariant (CallM.heeds_phaseInvariant s)
      ⟨by simp [Journal.Clear, runAt, Client.run], Journal.obeys_nil _⟩
    rw [show report.result = result from hreport.result,
      show report.request = last.request from hreport.request,
      show report.journal = last.journal from hreport.journal]
    cases result with
    | ok response =>
      have hlast : Heedful s last := heedful_dependsOn _ _ _ (by decide) hframe hheeds
      exact ⟨hlast.obeys, .inl hlast.clear⟩
    | error failure =>
      have hlast : Halts s failure last := Halts.frame hheeds hframe (by decide)
      exact ⟨hlast.obeys, .inr ⟨failure, rfl, hlast.answers⟩⟩

end Client

/-- Once a call has found that its time is up or that it has been cancelled, it starts no attempt
and sends nothing more; whatever it sends has a limit that allows for the time that is left. A
flag that is set between two steps, such as when the transport has answered, or during a pause of
any length, is found in time. In the end the call tells that its time is up, even if it has been
cancelled as well, or else that it has been cancelled. -/
theorem interrupted_call_stops (c : Client σ) (handlers : Handlers σ α) (context : CallContext σ)
    (state : ClientState) (request : HttpRequest σ) (world : σ) {raised : σ → Prop}
    {time : σ → Nat} (hminds : c.surroundings.Minds context.cancel raised time)
    (hstays : ∀ n phase run, c.StandsAfter handlers context state request world n phase run →
      raised run.world →
        raised (CallM.step (c.settingAt handlers context request world) (phase, run)).2.world) :
    let s := c.settingAt handlers context request world
    let report := (c.call handlers context state request world).1
    report.journal.Obeys (Journal.Heeds s) ∧
    (∀ (before : Journal σ) alarm (after : Journal σ), report.journal = before ++ alarm :: after →
      alarm.isAlarm s.budget = true → after.Idle) ∧
    (∀ n phase run, c.StandsAfter handlers context state request world n phase run →
      raised run.world → ∃ since, report.journal = run.journal ++ since ∧ since.Idle) ∧
    (∀ n o tally failure run,
      c.StandsAfter handlers context state request world n (.ready o tally (.retry failure)) run →
      ∀ credentials wait reachesEnd resting,
        CallM.settleDown s o tally failure run = .ok (credentials, wait, reachesEnd) resting →
        raised resting.world ∨ raised (c.surroundings.pause context.cancel wait resting.world).2 →
          ∃ since, report.journal = resting.journal ++ since ∧ since.Idle) ∧
    (report.journal.readings.Pairwise (· ≤ ·) →
      (∃ e ∈ report.journal, e.isLate s.budget = true) →
        report.result = .error (CallM.deadlineExceeded s report.request)) ∧
    ((∀ e ∈ report.journal, e.isLate s.budget = false) →
      (∃ e ∈ report.journal, e.isCancelled = true) →
        report.result = .error (CallM.interrupted report.request)) := by
  intro s report
  obtain ⟨hobeys, hanswers⟩ : report.journal.Obeys (Journal.Heeds s) ∧ _ := Client.report_heeds
  refine ⟨hobeys, ?_, ?_, ?_, ?_, ?_⟩
  · intro before alarm after hj halarm
    exact (hj ▸ hobeys).idle halarm
  · intro n phase run hstands hset
    exact hstands.idle_of_raised hminds hstays hset
  · intro n o tally failure run hstands credentials wait reachesEnd resting hrest hset
    exact hstands.idle_of_rest hminds hrest hset
  · intro hsorted hlate
    rcases hanswers with hclear | ⟨failure, hresult, hanswers⟩
    · obtain ⟨e, he, hlate⟩ := hlate
      rw [hclear.isLate he] at hlate
      cases hlate
    · rw [hresult, hanswers.late hsorted hlate]
  · intro hearly hcancelled
    rcases hanswers with hclear | ⟨failure, hresult, hanswers⟩
    · obtain ⟨e, he, hcancelled⟩ := hcancelled
      rw [hclear.isCancelled he] at hcancelled
      cases hcancelled
    · rw [hresult, hanswers.cancelled hearly hcancelled]

/-! ### Rehearsals -/

/-- A call that is over takes no flag back. -/
theorem CallM.stays_of_ended {s : CallSetting σ α} {start : Phase σ α × Run σ} {last : Nat}
    {raised : σ → Prop} {result : Except Error (Response α)} {stopped : Run σ}
    (hover : (step s)^[last] start = (.ended result, stopped))
    (hsteps : ∀ n < last, raised ((step s)^[n] start).2.world →
      raised ((step s)^[n + 1] start).2.world) (n : Nat) :
    raised ((step s)^[n] start).2.world → raised ((step s)^[n + 1] start).2.world := by
  by_cases hn : n < last
  · exact hsteps n hn
  · have hended : ∀ k, (step s)^[k + last] start = (.ended result, stopped) := fun k => by
      rw [Function.iterate_add_apply, hover, step_ended]
    have hlater : n = (n - last) + last := by omega
    rw [hlater, hended, Nat.add_right_comm, hended]
    exact id

/-- Whether a call is over. -/
def Phase.isEnded : Phase σ α → Bool
  | .ended _ => true
  | _ => false

theorem Phase.eq_of_isEnded {phase : Phase σ α} (h : phase.isEnded = true) :
    ∃ result, phase = .ended result := by
  cases phase with
  | ended result => exact ⟨result, rfl⟩
  | _ => cases h

namespace Rehearsal

def isRaised (stage : Stage) : Prop := stage.board.isCancelled ⟨0⟩ = true

instance : DecidablePred isRaised := fun stage =>
  inferInstanceAs (Decidable (stage.board.isCancelled ⟨0⟩ = true))

theorem pause_eq (token : CancelToken) (wait : Duration) (stage : Stage) :
    pause token wait stage =
      if stage.board.isCancelled token then (true, stage)
      else (false, { stage with clock := stage.clock + wait.nanos }) := by
  have hlook : isCancelled token stage = (stage.board.isCancelled token, stage) := rfl
  cases hset : stage.board.isCancelled token with
  | true =>
    rw [hset] at hlook
    show (isCancelled token >>= fun cancelled => _) stage = _
    simp only [bind, StateT.bind, hlook]
    rfl
  | false =>
    rw [hset] at hlook
    show (isCancelled token >>= fun cancelled => _) stage = _
    simp only [bind, StateT.bind, hlook]
    rfl

theorem surroundings_minds : surroundings.Minds ⟨0⟩ isRaised Stage.clock where
  told := fun _ => Iff.rfl
  clock := fun _ h => h
  pause := by
    intro wait stage
    have hpause : surroundings.pause ⟨0⟩ wait stage = _ := pause_eq ⟨0⟩ wait stage
    by_cases hset : isRaised stage
    · have hcancelled : surroundings.pause ⟨0⟩ wait stage = (true, stage) :=
        hpause.trans (if_pos hset)
      rw [hcancelled]
      exact .cancelled hset
    · have hpassed : surroundings.pause ⟨0⟩ wait stage =
          (false, { stage with clock := stage.clock + wait.nanos }) := hpause.trans (if_neg hset)
      rw [hpassed]
      by_cases hnow : wait.nanos = 0
      · rw [hnow]
        exact .elapsed hset (Nat.le_refl _)
      · have hearly : stage.clock < stage.clock + wait.nanos := by omega
        exact .wait hset hearly (.elapsed hset (Nat.le_refl _))

/-- The answer comes too late, and the call has been cancelled meanwhile. -/
def tooLate : Step := { elsewhere with lasts := .ofSecs 10, cancels := true }

def hurried : HttpRequest Stage :=
  { paid with subject := { subject with executionTimeout := some (.ofSecs 5) } }

end Rehearsal

open Rehearsal in
theorem interrupted_call_stops_elsewhere :
    let report := rehearse client expired unsigned (client.start 0) hurried [tooLate]
    failureCode? report.result = some .deadlineExceeded ∧ report.journal.dispatches.length = 1 := by
  intro report
  let s := client.settingAt (handlers expired) unsigned hurried { steps := [tooLate] }
  let start : Phase Stage Unit × Run Stage :=
    (.outset, client.runAt (client.start 0) hurried { steps := [tooLate] })
  have hsteps : ∀ n < 6, isRaised ((CallM.step s)^[n] start).2.world →
      isRaised ((CallM.step s)^[n + 1] start).2.world := by
    decide +kernel
  have hfacts : ((CallM.step s)^[6] start).1.isEnded = true ∧
      isRaised ((CallM.step s)^[3] start).2.world ∧
      ((CallM.step s)^[3] start).2.journal.dispatches.length = 1 := by
    decide +kernel
  obtain ⟨hended, hset, hsent⟩ := hfacts
  have hlate : report.journal.readings.Pairwise (· ≤ ·) ∧
      ∃ e ∈ report.journal, e.isLate s.budget = true := by
    simp only [report, Rehearsal.rehearse, Client.call, CallM.call, CallM.conduct,
      CallM.attempts_eq_turnsIn]
    decide +kernel
  obtain ⟨result, hresult⟩ := Phase.eq_of_isEnded hended
  have hstays : ∀ n phase run, client.StandsAfter (handlers expired) unsigned (client.start 0)
      hurried { steps := [tooLate] } n phase run → isRaised run.world →
        isRaised (CallM.step s (phase, run)).2.world := by
    intro n phase run hstands hraised
    have hnext := CallM.stays_of_ended (Prod.ext hresult rfl) hsteps n
    rw [Function.iterate_succ_apply', show (CallM.step s)^[n] start = _ from hstands.2] at hnext
    exact hnext hraised
  obtain ⟨-, -, hidle, -, hdeadline, -⟩ := interrupted_call_stops client (handlers expired) unsigned
    (client.start 0) hurried { steps := [tooLate] } surroundings_minds hstays
  obtain ⟨since, hj, hquiet⟩ := hidle 3 _ _ ⟨rfl, rfl⟩ hset
  constructor
  · rw [show report.result = _ from hdeadline hlate.1 hlate.2]
    rfl
  · have hnone : since.dispatches = [] := Journal.dispatches_eq_nil fun e he => (hquiet e he).2
    rw [show report.journal = _ from hj, Journal.dispatches_append, hnone, List.append_nil]
    exact hsent

end ServiceCall
