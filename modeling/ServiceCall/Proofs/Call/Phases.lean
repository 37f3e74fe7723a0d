import Mathlib.Logic.Function.Iterate
import ServiceCall.Proofs.Call.Turns

/-!
Calls by steps. Between two steps a call is in a phase, and each step is what a call does without
looking at what others have done meanwhile: up to the answer of the transport it is one step, and
what is made of the answer is the next one. After a bounded number of steps a call is over, with
the result that it has as a whole.
-/

namespace ServiceCall

variable {σ α : Type}

/-- Where a call stands. An attempt whose request has been sent waits until its answer is taken
up; a call that has failed still has to give back what it owes. -/
inductive Phase (σ α : Type) where
  | outset
  | begun
  | ready (origin : Origin) (tally : Tally) (directive : Directive σ)
  | waiting (origin : Origin) (tally : Tally) (limit : Option Duration)
      (answer : Except TransportError HttpResponse)
  | failing (failure : Error)
  | ended (result : Except Error (Response α))

namespace CallM

/-! ### The parts of a call -/

/-- Completes the request. -/
def launch (s : CallSetting σ α) : CallM σ Unit := do
  begin s (← request).subject.listener
  setOut s

/-- What the attempts start from, marked so that they can go back to it. -/
def markOrigin : CallM σ Origin := do
  let r ← request
  unless r.body.isRemarked do markBody
  return .of r

/-- An attempt up to the answer of the transport, with the limit of the exchange. -/
def sendOut (s : CallSetting σ α) (directive : Directive σ) (number : Nat) :
    CallM σ (Option Duration × Except TransportError HttpResponse) := do
  let credentials ← approach s directive number
  stampRetryHeader number
  let signer ← bindSigner s directive
  signWith signer credentials
  let limit ← exchangeLimit s
  announce .dispatchStarted
  return (limit, ← dispatch s limit)

/-- A turn up to the answer of the transport. -/
def depart (s : CallSetting σ α) (o : Origin) (tally : Tally) (directive : Directive σ) :
    CallM σ (Option Duration × Except TransportError HttpResponse) := do
  checkInterruption s
  startAttempt s directive (tally.attempts + 1)
  prepare o directive
  onFailure (sendOut s directive (tally.attempts + 1)) countFailedAttempt

/-- The rest of the turn. -/
def arrive (s : CallSetting σ α) (o : Origin) (tally : Tally) (limit : Option Duration)
    (answer : Except TransportError HttpResponse) : CallM σ (Turn σ α s.limits tally) := do
  conclude s o tally (← onFailure (interpret s limit answer) countFailedAttempt)

/-- What a call does when its attempts have failed. -/
def giveUp (s : CallSetting σ α) (run : Run σ) : Run σ := rewind (giveCapacityBack s run)

theorem attempt_eq_sendOut {authAllowed : Bool} (s : CallSetting σ α) (directive : Directive σ)
    (number : Nat) :
    (attempt s directive number : CallM σ (Outcome σ α authAllowed)) =
      sendOut s directive number >>= fun sent => interpret s sent.1 sent.2 := by
  simp only [attempt, sendOut, exchange, bind_assoc, pure_bind]
  rfl

theorem onFailure_bind {β γ : Type} (act : CallM σ β) (f : β → CallM σ γ)
    (undo : Run σ → Run σ) :
    onFailure (act >>= f) undo = onFailure act undo >>= fun b => onFailure (f b) undo := by
  funext run
  simp only [onFailure, bind, EStateM.bind]
  cases act run <;> rfl

theorem turn_eq_depart (s : CallSetting σ α) (o : Origin) (tally : Tally)
    (directive : Directive σ) :
    turn s o tally directive =
      depart s o tally directive >>= fun sent => arrive s o tally sent.1 sent.2 := by
  simp only [turn, depart, arrive, attempt_eq_sendOut, onFailure_bind, bind_assoc]

theorem attempts_eq_markOrigin (s : CallSetting σ α) :
    attempts s = markOrigin >>= fun o => turns s o {} .start := by
  simp only [attempts, markOrigin, bind_assoc]
  congr 1
  funext r
  split
  · rfl
  · simp only [bind_assoc, pure_bind]

/-! ### Steps -/

/-- The phase after an action. -/
def phaseAfter {β : Type} (act : CallM σ β) (ok : β → Phase σ α) (failed : Error → Phase σ α)
    (run : Run σ) : Phase σ α × Run σ :=
  match act run with
  | .ok value run => (ok value, run)
  | .error e run => (failed e, run)

/-- The phase after a turn. -/
def nextPhase {l : CallLimits} {t : Tally} (o : Origin) : Turn σ α l t → Phase σ α
  | .finished response => .ended (.ok response)
  | .again tally directive _ => .ready o tally directive

def step (s : CallSetting σ α) : Phase σ α × Run σ → Phase σ α × Run σ
  | (.outset, run) => phaseAfter (launch s) (fun _ => .begun) (fun e => .ended (.error e)) run
  | (.begun, run) => phaseAfter markOrigin (fun o => .ready o {} .start) .failing run
  | (.ready o tally directive, run) =>
    phaseAfter (depart s o tally directive) (fun sent => .waiting o tally sent.1 sent.2) .failing
      run
  | (.waiting o tally limit answer, run) =>
    phaseAfter (arrive s o tally limit answer) (nextPhase o) .failing run
  | (.failing e, run) => (.ended (.error e), giveUp s run)
  | (.ended result, run) => (.ended result, run)

theorem phaseAfter_of_ok {β : Type} {act : CallM σ β} {ok : β → Phase σ α}
    {failed : Error → Phase σ α} {run run' : Run σ} {value : β} (h : act run = .ok value run') :
    phaseAfter act ok failed run = (ok value, run') := by
  rw [phaseAfter, h]

theorem phaseAfter_of_error {β : Type} {act : CallM σ β} {ok : β → Phase σ α}
    {failed : Error → Phase σ α} {run run' : Run σ} {e : Error} (h : act run = .error e run') :
    phaseAfter act ok failed run = (failed e, run') := by
  rw [phaseAfter, h]

theorem eq_of_phaseAfter {β : Type} {act : CallM σ β} {ok : β → Phase σ α}
    {failed : Error → Phase σ α} {run last : Run σ} {phase : Phase σ α}
    (h : phaseAfter act ok failed run = (phase, last)) :
    (∃ value, act run = .ok value last ∧ ok value = phase) ∨
      ∃ e, act run = .error e last ∧ failed e = phase := by
  unfold phaseAfter at h
  split at h
  · next value run' heq =>
    obtain ⟨hphase, rfl⟩ := Prod.mk.inj h
    exact .inl ⟨value, heq, hphase⟩
  · next e run' heq =>
    obtain ⟨hphase, rfl⟩ := Prod.mk.inj h
    exact .inr ⟨e, heq, hphase⟩

/-- A call that is over stays so. -/
theorem step_ended (s : CallSetting σ α) (n : Nat) (result : Except Error (Response α))
    (run : Run σ) : (step s)^[n] (.ended result, run) = (.ended result, run) :=
  Function.iterate_fixed rfl n

/-! ### The steps of a call lead where the call leads -/

/-- Where attempts end. -/
def ending (s : CallSetting σ α) (act : CallM σ (Response α)) (run : Run σ) :
    Phase σ α × Run σ :=
  phaseAfter (onFailure act (giveUp s)) (fun response => .ended (.ok response))
    (fun e => .ended (.error e)) run

variable {s : CallSetting σ α}

theorem ending_of_ok {act : CallM σ (Response α)} {run run' : Run σ} {response : Response α}
    (h : act run = .ok response run') : ending s act run = (.ended (.ok response), run') := by
  refine phaseAfter_of_ok ?_
  rw [onFailure, h]

theorem ending_of_error {act : CallM σ (Response α)} {run run' : Run σ} {e : Error}
    (h : act run = .error e run') : ending s act run = (.ended (.error e), giveUp s run') := by
  refine phaseAfter_of_error ?_
  rw [onFailure, h]

theorem ending_bind_of_ok {β : Type} {act : CallM σ β} {f : β → CallM σ (Response α)}
    {run run' : Run σ} {value : β} (h : act run = .ok value run') :
    ending s (act >>= f) run = ending s (f value) run' := by
  simp only [ending, phaseAfter, onFailure, bind, EStateM.bind, h]

theorem ending_bind_of_error {β : Type} {act : CallM σ β} {f : β → CallM σ (Response α)}
    {run run' : Run σ} {e : Error} (h : act run = .error e run') :
    ending s (act >>= f) run = (.ended (.error e), giveUp s run') := by
  refine ending_of_error ?_
  simp only [bind, EStateM.bind, h]

/-- Each turn takes two steps, and one that fails another one to give up. -/
theorem step_turns (o : Origin) (tally : Tally) (directive : Directive σ) (run : Run σ) :
    ∃ n ≤ 2 * tally.left s.limits + 3,
      (step s)^[n] (.ready o tally directive, run) = ending s (turns s o tally directive) run := by
  -- A turn takes two steps and leaves less of the tally; one that fails takes one step more.
  induction hleft : tally.left s.limits using Nat.strongRecOn
    generalizing tally directive run with
  | _ left ih =>
    rw [turns, turn_eq_depart, bind_assoc]
    rcases hdepart : depart s o tally directive run with ⟨sent, mid⟩ | ⟨e, mid⟩
    · have hfirst : step s (.ready o tally directive, run) =
          (.waiting o tally sent.1 sent.2, mid) := phaseAfter_of_ok hdepart
      rw [ending_bind_of_ok hdepart]
      rcases harrive : arrive s o tally sent.1 sent.2 mid with ⟨t, last⟩ | ⟨e, last⟩
      · have hsecond : step s (.waiting o tally sent.1 sent.2, mid) = (nextPhase o t, last) :=
          phaseAfter_of_ok harrive
        rw [ending_bind_of_ok harrive]
        cases t with
        | finished response =>
          refine ⟨2, by omega, ?_⟩
          rw [Function.iterate_succ_apply, Function.iterate_succ_apply, hfirst, hsecond]
          rfl
        | again tally' directive' less =>
          obtain ⟨n, hn, hrest⟩ := ih _ (hleft ▸ less) tally' directive' last rfl
          refine ⟨n + 2, by omega, ?_⟩
          rw [Function.iterate_succ_apply, Function.iterate_succ_apply, hfirst, hsecond]
          exact hrest
      · have hsecond : step s (.waiting o tally sent.1 sent.2, mid) = (.failing e, last) :=
          phaseAfter_of_error harrive
        refine ⟨3, by omega, ?_⟩
        rw [ending_bind_of_error harrive]
        rw [Function.iterate_succ_apply, Function.iterate_succ_apply, hfirst, hsecond]
        rfl
    · have hfirst : step s (.ready o tally directive, run) = (.failing e, mid) :=
        phaseAfter_of_error hdepart
      refine ⟨2, by omega, ?_⟩
      rw [ending_bind_of_error hdepart, Function.iterate_succ_apply, hfirst]
      rfl

theorem step_attempts (run : Run σ) : ∃ n ≤ 2 * ({} : Tally).left s.limits + 4,
    (step s)^[n] (.begun, run) = ending s (attempts s) run := by
  rw [attempts_eq_markOrigin]
  rcases hmark : markOrigin run with ⟨o, marked⟩ | ⟨e, marked⟩
  · have hfirst : step s (.begun, run) = (.ready o {} .start, marked) := phaseAfter_of_ok hmark
    obtain ⟨n, hn, hrest⟩ := step_turns (s := s) o {} .start marked
    refine ⟨n + 1, by omega, ?_⟩
    rw [ending_bind_of_ok hmark, Function.iterate_succ_apply, hfirst]
    exact hrest
  · have hfirst : step s (.begun, run) = (.failing e, marked) := phaseAfter_of_error hmark
    refine ⟨2, by omega, ?_⟩
    rw [ending_bind_of_error hmark, Function.iterate_succ_apply, hfirst]
    rfl

/-- A call is conducted in two steps for every turn that its limits allow and a few more. -/
theorem step_conduct (s : CallSetting σ α) (run : Run σ) :
    ∃ n ≤ 2 * ({} : Tally).left s.limits + 5, ∃ begun result conducted,
      begin s run.request.subject.listener run = .ok () begun ∧
      settle (conduct s) begun = .ok result conducted ∧
      (step s)^[n] (.outset, run) = (.ended result, conducted) := by
  have hn : ∀ code, Effect.fails code ∉ beginEffects := fun code => by simp [beginEffects]
  obtain ⟨_, begun, hbegin, -⟩ :=
    (begin_footprint s run.request.subject.listener).exists_ok hn run
  have hlaunch : launch s run = setOut s begun := by
    simp only [launch, request, bind, EStateM.bind, hbegin]
  have hconduct : conduct s begun =
      (setOut s >>= fun _ => onFailure (attempts s) (giveUp s)) begun :=
    congrFun (conduct_eq_setOut s) begun
  rcases hset : setOut s begun with ⟨_, outset⟩ | ⟨e, stopped⟩
  · have hfirst : step s (.outset, run) = (.begun, outset) :=
      phaseAfter_of_ok (hlaunch.trans hset)
    have hrun : conduct s begun = onFailure (attempts s) (giveUp s) outset := by
      rw [hconduct]
      simp only [bind, EStateM.bind, hset]
    obtain ⟨n, hle, hrest⟩ := step_attempts (s := s) outset
    rcases hattempts : attempts s outset with ⟨response, last⟩ | ⟨e, last⟩
    · refine ⟨n + 1, by omega, begun, .ok response, last, hbegin, ?_, ?_⟩
      · rw [settle, hrun, onFailure, hattempts]
      · rw [Function.iterate_succ_apply, hfirst, hrest, ending_of_ok hattempts]
    · refine ⟨n + 1, by omega, begun, .error e, giveUp s last, hbegin, ?_, ?_⟩
      · rw [settle, hrun, onFailure, hattempts]
      · rw [Function.iterate_succ_apply, hfirst, hrest, ending_of_error hattempts]
  · have hfirst : step s (.outset, run) = (.ended (.error e), stopped) :=
      phaseAfter_of_error (hlaunch.trans hset)
    refine ⟨1, by omega, begun, .error e, stopped, hbegin, ?_, hfirst⟩
    rw [settle, hconduct]
    simp only [bind, EStateM.bind, hset]

/-- What a call does once it has been conducted depends on nothing but its result. -/
theorem step_call (s : CallSetting σ α) (run : Run σ) :
    ∃ n ≤ 2 * ({} : Tally).left s.limits + 5, ∃ result conducted,
      (step s)^[n] (.outset, run) = (.ended result, conducted) ∧
      Ends (call s) run (fun value last => value = result ∧ Frame finishEffects conducted last)
        fun _ _ => False := by
  obtain ⟨n, hle, begun, result, conducted, hbegin, hconduct, hsteps⟩ := step_conduct s run
  refine ⟨n, hle, result, conducted, hsteps, ?_⟩
  unfold call
  rw [ends_bind, ends_request, ends_bind, ends_ok_iff hbegin, ends_bind, ends_ok_iff hconduct]
  exact finish_ends s _ result conducted

/-! ### The effects of a step -/

theorem Footprint.onFailure {β : Type} {effects : List Effect} {act : CallM σ β}
    {undo : Run σ → Run σ} (hact : Footprint effects act)
    (hundo : ∀ run, Frame effects run (undo run)) :
    Footprint effects (CallM.onFailure act undo) := by
  refine ⟨fun run => ends_onFailure.mpr ((hact.ends run).mono (fun _ _ h => h) ?_)⟩
  exact fun e run' h => ⟨h.1.trans (hundo run'), h.2⟩

theorem launch_footprint (s : CallSetting σ α) :
    Footprint (beginEffects ++ outsetEffects) (launch s) :=
  .bind .request fun _ => .bind ((begin_footprint s _).mono (by decide)) fun _ =>
    (setOut_footprint s).mono (by decide)

theorem markOrigin_footprint : Footprint bodyEffects (markOrigin : CallM σ Origin) :=
  .bind .request fun _ => .ite (.pure _) (.bind markBody_footprint fun _ => .pure _)

/-- What an attempt does up to the answer of the transport. -/
def sendOutEffects : List Effect :=
  approachEffects ++ stampEffects ++ signEffects ++
    [.binding, .records .signerAsked, .records .signerBound, .records .dispatched]

theorem signWith_footprint (signer : Option (Signer σ)) (credentials : Option Credentials) :
    Footprint signEffects (signWith signer credentials) := by
  unfold signWith
  split
  · exact sign_footprint _ _
  · exact .pure ()

theorem sendOut_footprint (s : CallSetting σ α) (directive : Directive σ) (number : Nat) :
    Footprint sendOutEffects (sendOut s directive number) :=
  .bind ((approach_footprint s directive number).mono (by decide)) fun _ =>
    .bind ((stampRetryHeader_footprint number).mono (by decide)) fun _ =>
      .bind ((bindSigner_footprint s directive).mono (by decide)) fun _ =>
        .bind ((signWith_footprint _ _).mono (by decide)) fun _ =>
          .bind ((exchangeLimit_footprint s).mono (by decide)) fun _ =>
            .bind ((announce_footprint _).mono (by decide)) fun limit =>
              .bind ((dispatch_footprint s _).mono (by decide)) fun _ => .pure _

/-- What a turn does up to the answer of the transport, once it has been started. -/
def departEffects : List Effect := prepareEffects ++ sendOutEffects ++ [.metrics]

theorem prepare_sendOut_footprint (s : CallSetting σ α) (o : Origin) (directive : Directive σ)
    (number : Nat) :
    Footprint departEffects (do
      prepare o directive
      CallM.onFailure (sendOut s directive number) countFailedAttempt) :=
  .bind ((prepare_footprint o directive).mono (by decide)) fun _ =>
    .onFailure ((sendOut_footprint s directive number).mono (by decide))
      fun run => (countFailedAttempt_frame run).mono (by decide)

theorem depart_footprint (s : CallSetting σ α) (o : Origin) (tally : Tally)
    (directive : Directive σ) :
    Footprint (departEffects ++ [.records .attemptStarted, .clientMetrics])
      (depart s o tally directive) :=
  .bind ((checkInterruption_footprint s).mono (by decide)) fun _ =>
    .bind ((startAttempt_footprint s directive _).mono (by decide)) fun _ =>
      (prepare_sendOut_footprint s o directive _).mono (by decide)

theorem giveUp_frame (s : CallSetting σ α) (run : Run σ) :
    Frame [.pool, .records .capacityReturned, .request .body] run (giveUp s run) :=
  ((giveCapacityBack_frame s run).mono (by decide)).trans ((rewind_frame _).mono (by decide))

/-! ### What every step keeps -/

/-- What holds in each phase of a call is shown for each kind of step. -/
structure PhaseInvariant (s : CallSetting σ α) (P : Phase σ α → Run σ → Prop) : Prop where
  launch : ∀ run, P .outset run →
    Ends (launch s) run (fun _ => P .begun) fun e => P (.ended (.error e))
  markOrigin : ∀ run, P .begun run →
    Ends markOrigin run (fun o => P (.ready o {} .start)) fun e => P (.failing e)
  depart : ∀ o tally directive run, P (.ready o tally directive) run →
    Ends (depart s o tally directive) run (fun sent => P (.waiting o tally sent.1 sent.2))
      fun e => P (.failing e)
  arrive : ∀ o tally limit answer run, P (.waiting o tally limit answer) run →
    Ends (arrive s o tally limit answer) run (fun t => P (nextPhase o t)) fun e => P (.failing e)
  giveUp : ∀ e run, P (.failing e) run → P (.ended (.error e)) (giveUp s run)

theorem Ends.phaseAfter {β : Type} {act : CallM σ β} {run : Run σ} {ok : β → Phase σ α}
    {failed : Error → Phase σ α} {P : Phase σ α → Run σ → Prop}
    (h : Ends act run (fun value => P (ok value)) fun e => P (failed e)) :
    P (phaseAfter act ok failed run).1 (phaseAfter act ok failed run).2 := by
  unfold Ends at h
  split at h
  · next heq =>
    rw [phaseAfter_of_ok heq]
    exact h
  · next heq =>
    rw [phaseAfter_of_error heq]
    exact h

theorem PhaseInvariant.step {P : Phase σ α → Run σ → Prop} (hP : PhaseInvariant s P)
    {phase : Phase σ α} {run : Run σ} (h : P phase run) :
    P (step s (phase, run)).1 (step s (phase, run)).2 := by
  cases phase with
  | outset => exact (hP.launch run h).phaseAfter
  | begun => exact (hP.markOrigin run h).phaseAfter
  | ready o tally directive => exact (hP.depart o tally directive run h).phaseAfter
  | waiting o tally limit answer => exact (hP.arrive o tally limit answer run h).phaseAfter
  | failing e => exact hP.giveUp e run h
  | ended result => exact h

theorem PhaseInvariant.steps {P : Phase σ α → Run σ → Prop} (hP : PhaseInvariant s P)
    {run : Run σ} (h : P .outset run) (n : Nat) :
    P ((CallM.step s)^[n] (.outset, run)).1 ((CallM.step s)^[n] (.outset, run)).2 := by
  induction n with
  | zero => exact h
  | succ n ih =>
    rw [Function.iterate_succ_apply']
    exact hP.step ih

end CallM

/-! ### The steps of a client's call -/

namespace Client

variable (c : Client σ) (handlers : Handlers σ α) (context : CallContext σ) (state : ClientState)
  (request : HttpRequest σ) (world : σ)

/-- After so many steps the call stands in the phase. A client that has been shut down makes no
step. -/
def StandsAfter (n : Nat) (phase : Phase σ α) (run : Run σ) : Prop :=
  state.isShutDown = false ∧
    (CallM.step (c.settingAt handlers context request world))^[n]
      (.outset, c.runAt state request world) = (phase, run)

/-- How many steps the limits of the client allow a call. -/
def maxSteps : Nat :=
  2 * (c.config.maxRedirects + c.config.maxAuthRetries + c.config.maxRetries) + 5

variable {c handlers context state request world}

theorem exists_standsAfter_ended (hs : state.isShutDown = false) :
    ∃ n ≤ c.maxSteps, ∃ result conducted last,
      c.StandsAfter handlers context state request world n (.ended result) conducted ∧
      Frame CallM.finishEffects conducted last ∧
      Reports (c.call handlers context state request world).1 result last := by
  obtain ⟨n, hn, result, conducted, hsteps, hcall⟩ :=
    CallM.step_call (c.settingAt handlers context request world) (c.runAt state request world)
  obtain ⟨value, last, ⟨rfl, hframe⟩, hreport⟩ := call_reports hs hcall
  exact ⟨n, hn, value, conducted, last, ⟨hs, hsteps⟩, hframe, hreport⟩

/-- A call does not come to an end twice. -/
theorem StandsAfter.ended_unique {n m : Nat} {result result' : Except Error (Response α)}
    {run run' : Run σ}
    (h : c.StandsAfter handlers context state request world n (.ended result) run)
    (h' : (CallM.step (c.settingAt handlers context request world))^[m]
      (.outset, c.runAt state request world) = (.ended result', run')) :
    ((.ended result, run) : Phase σ α × Run σ) = (.ended result', run') := by
  rw [← CallM.step_ended (c.settingAt handlers context request world) m result, ← h.2,
    ← Function.iterate_add_apply, Nat.add_comm, Function.iterate_add_apply, h', CallM.step_ended]

/-- Once it is over, a call stands where its report says. -/
theorem StandsAfter.reports {n : Nat} {result : Except Error (Response α)} {conducted : Run σ}
    (h : c.StandsAfter handlers context state request world n (.ended result) conducted) :
    ∃ last, Frame CallM.finishEffects conducted last ∧
      Reports (c.call handlers context state request world).1 result last := by
  obtain ⟨m, -, result', conducted', last, ⟨-, hm⟩, hframe, hreport⟩ :=
    @exists_standsAfter_ended σ α c handlers context state request world h.1
  obtain ⟨hphase, rfl⟩ := Prod.mk.inj (h.ended_unique hm)
  obtain rfl := Phase.ended.inj hphase
  exact ⟨last, hframe, hreport⟩

/-- The phase after the next step. -/
theorem StandsAfter.next {n : Nat} {phase : Phase σ α} {run : Run σ}
    (h : c.StandsAfter handlers context state request world n phase run) :
    c.StandsAfter handlers context state request world (n + 1)
      (CallM.step (c.settingAt handlers context request world) (phase, run)).1
      (CallM.step (c.settingAt handlers context request world) (phase, run)).2 :=
  ⟨h.1, by rw [Function.iterate_succ_apply', h.2]⟩

/-- Every phase but the first comes from another one. -/
theorem StandsAfter.exists_before {n : Nat} {phase : Phase σ α} {run : Run σ}
    (h : c.StandsAfter handlers context state request world (n + 1) phase run) :
    ∃ before earlier, c.StandsAfter handlers context state request world n before earlier ∧
      CallM.step (c.settingAt handlers context request world) (before, earlier) = (phase, run) := by
  refine ⟨_, _, ⟨h.1, rfl⟩, ?_⟩
  rw [← h.2, Function.iterate_succ_apply']

/-- A call that is about to fail has failed in the end. -/
theorem StandsAfter.result_of_failing {n : Nat} {e : Error} {run : Run σ}
    (h : c.StandsAfter handlers context state request world n (.failing e) run) :
    (c.call handlers context state request world).1.result = .error e := by
  obtain ⟨last, -, hreport⟩ := h.next.reports
  exact hreport.result

/-- An answer that can only lead to one failure leads to it. -/
theorem StandsAfter.result_of_arrive {n : Nat} {origin : Origin} {tally : Tally}
    {limit : Option Duration} {answer : Except TransportError HttpResponse} {run : Run σ}
    {e : Error}
    (h : c.StandsAfter handlers context state request world n (.waiting origin tally limit answer)
      run)
    (harrive : CallM.Ends
      (CallM.arrive (c.settingAt handlers context request world) origin tally limit answer) run
      (fun _ _ => False) fun e' _ => e' = e) :
    (c.call handlers context state request world).1.result = .error e := by
  have hnext := h.next
  unfold CallM.Ends at harrive
  split at harrive
  · exact harrive.elim
  · next e' run' heq =>
    subst harrive
    rw [CallM.step, CallM.phaseAfter_of_error heq] at hnext
    exact hnext.result_of_failing

/-- What every step keeps holds in whatever phase a call is. -/
theorem StandsAfter.invariant {P : Phase σ α → Run σ → Prop} {n : Nat} {phase : Phase σ α}
    {run : Run σ} (hstands : c.StandsAfter handlers context state request world n phase run)
    (hP : CallM.PhaseInvariant (c.settingAt handlers context request world) P)
    (h : P .outset (c.runAt state request world)) : P phase run := by
  have hsteps := hP.steps h n
  rwa [hstands.2] at hsteps

/-- What the steps of a call keep from some step on holds when the call is over. -/
theorem StandsAfter.exists_ended {P : Phase σ α → Run σ → Prop} {n : Nat} {phase : Phase σ α}
    {run : Run σ} (h : c.StandsAfter handlers context state request world n phase run)
    (hstep : ∀ later phase run,
      c.StandsAfter handlers context state request world later phase run → P phase run →
        P (CallM.step (c.settingAt handlers context request world) (phase, run)).1
          (CallM.step (c.settingAt handlers context request world) (phase, run)).2)
    (hP : P phase run) :
    ∃ result conducted last, P (.ended result) conducted ∧
      Frame CallM.finishEffects conducted last ∧
      Reports (c.call handlers context state request world).1 result last := by
  have hlater : ∀ k, ∃ phase run,
      c.StandsAfter handlers context state request world (n + k) phase run ∧ P phase run := by
    -- On the steps that follow; after as many as the whole call makes, it is certainly over.
    intro k
    induction k with
    | zero => exact ⟨phase, run, h, hP⟩
    | succ k ih =>
      obtain ⟨phase, run, hstands, hP⟩ := ih
      exact ⟨_, _, hstands.next, hstep _ _ _ hstands hP⟩
  obtain ⟨m, -, result, conducted, last, ⟨-, hm⟩, hframe, hreport⟩ :=
    @exists_standsAfter_ended σ α c handlers context state request world h.1
  obtain ⟨phase', run', hstands, hP⟩ := hlater m
  have hended := hstands.2
  rw [Function.iterate_add_apply, hm, CallM.step_ended] at hended
  obtain ⟨rfl, rfl⟩ := Prod.mk.inj hended
  exact ⟨result, conducted, last, hP, hframe, hreport⟩

/-- What every step keeps, and what comes after the last one as well, is true of the report. -/
theorem report_of_phases {P : Phase σ α → Run σ → Prop}
    {Q : Except Error (Response α) → Journal σ → Prop}
    (hP : CallM.PhaseInvariant (c.settingAt handlers context request world) P)
    (h : P .outset (c.runAt state request world))
    (hover : ∀ result conducted last, P (.ended result) conducted →
      Frame CallM.finishEffects conducted last → Q result last.journal)
    (hshut : Q (.error .clientShutdown) []) :
    let report := (c.call handlers context state request world).1
    Q report.result report.journal := by
  intro report
  cases hs : state.isShutDown with
  | true =>
    rw [show report = _ from call_of_isShutDown hs]
    exact hshut
  | false =>
    obtain ⟨n, -, result, conducted, last, hstands, hframe, hreport⟩ :=
      @exists_standsAfter_ended σ α c handlers context state request world hs
    rw [show report.result = result from hreport.result,
      show report.journal = last.journal from hreport.journal]
    exact hover result conducted last (hstands.invariant hP h) hframe

end Client

end ServiceCall
