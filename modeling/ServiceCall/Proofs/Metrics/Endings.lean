import ServiceCall.Proofs.Call.History

/-!
How attempts end. Each time a call comes to the place where an attempt is due, either the attempt
is made and ends in one of a few ways, or the call ends without it. What is known of a call may
speak of all that has ended so far.
-/

namespace ServiceCall

variable {σ α β : Type}

/-- How an attempt ended, or why it was not made. -/
inductive Ending where
  /-- The call failed before its first attempt. -/
  | unmade
  /-- The call was stopped where the attempt would have been started. -/
  | interrupted
  /-- The request could not be made ready for the attempt, which had been started. -/
  | unprepared
  | success
  | redirect
  | authRetry
  | retryable
  | fatal
  deriving DecidableEq, Repr

namespace Ending

/-- The attempt was started. -/
def isAttempt : Ending → Bool
  | .unmade | .interrupted => false
  | .unprepared | .success | .redirect | .authRetry | .retryable | .fatal => true

/-- The attempt failed, for good or not. -/
def isException : Ending → Bool
  | .retryable | .fatal => true
  | .unmade | .interrupted | .unprepared | .success | .redirect | .authRetry => false

end Ending

def Outcome.ending {authAllowed : Bool} : Outcome σ α authAllowed → Ending
  | .success _ => .success
  | .redirect _ => .redirect
  | .authRetry .. => .authRetry
  | .retryable _ => .retryable

namespace CallM

/-! ### What ends in a step -/

/-- What has ended when the action has. -/
def endingOf (act : CallM σ β) (ok : β → Run σ → Option Ending) (failed : Ending) (run : Run σ) :
    Option Ending :=
  match act run with
  | .ok value run => ok value run
  | .error .. => some failed

/-- What ends in the next step. -/
def ending? (s : CallSetting σ α) : Phase σ α × Run σ → Option Ending
  | (.outset, run) => endingOf (launch s) (fun _ _ => none) .unmade run
  | (.begun, run) => endingOf markOrigin (fun _ _ => none) .unmade run
  | (.ready o tally directive, run) =>
    run |> endingOf (checkInterruption s) (fun _ =>
      endingOf
        (do
          startAttempt s directive (tally.attempts + 1)
          prepare o directive)
        (fun _ => endingOf (sendOut s directive (tally.attempts + 1)) (fun _ _ => none) .fatal)
        .unprepared) .interrupted
  | (.waiting _ tally limit answer, run) =>
    endingOf
      (interpret s limit answer :
        CallM σ (Outcome σ α (decide (tally.authRetries < s.limits.authRetries))))
      (fun outcome _ => some outcome.ending) .fatal run
  | (.failing _, _) => none
  | (.ended _, _) => none

variable {s : CallSetting σ α}

theorem endingOf_of_ok {act : CallM σ β} {ok : β → Run σ → Option Ending} {failed : Ending}
    {run run' : Run σ} {value : β} (h : act run = .ok value run') :
    endingOf act ok failed run = ok value run' := by
  rw [endingOf, h]

theorem endingOf_of_error {act : CallM σ β} {ok : β → Run σ → Option Ending} {failed : Ending}
    {run run' : Run σ} {e : Error} (h : act run = .error e run') :
    endingOf act ok failed run = some failed := by
  rw [endingOf, h]

/-- What holds of the endings so far is shown for each way in which a step may go. -/
structure EndingInvariant (s : CallSetting σ α) (P : List Ending → Phase σ α → Run σ → Prop) :
    Prop where
  launch : ∀ endings run, P endings .outset run →
    Ends (launch s) run (fun _ => P endings .begun)
      fun e => P (endings ++ [.unmade]) (.ended (.error e))
  markOrigin : ∀ endings run, P endings .begun run →
    Ends markOrigin run (fun o => P endings (.ready o {} .start))
      fun e => P (endings ++ [.unmade]) (.failing e)
  depart : ∀ endings o tally directive run, P endings (.ready o tally directive) run →
    Ends (checkInterruption s) run
      (fun _ run => Ends
        (do
          startAttempt s directive (tally.attempts + 1)
          prepare o directive) run
        (fun _ run => Ends (sendOut s directive (tally.attempts + 1)) run
          (fun sent => P endings (.waiting o tally sent.1 sent.2))
          fun e run => P (endings ++ [.fatal]) (.failing e) (countFailedAttempt run))
        fun e => P (endings ++ [.unprepared]) (.failing e))
      fun e => P (endings ++ [.interrupted]) (.failing e)
  arrive : ∀ endings o tally limit answer run, P endings (.waiting o tally limit answer) run →
    Ends (interpret s limit answer) run
      (fun (outcome : Outcome σ α (decide (tally.authRetries < s.limits.authRetries))) run =>
        Ends (conclude s o tally outcome) run
          (fun t => P (endings ++ [outcome.ending]) (nextPhase o t))
          fun e => P (endings ++ [outcome.ending]) (.failing e))
      fun e run => P (endings ++ [.fatal]) (.failing e) (countFailedAttempt run)
  giveUp : ∀ endings e run, P endings (.failing e) run →
    P endings (.ended (.error e)) (giveUp s run)

variable {P : List Ending → Phase σ α → Run σ → Prop}

/-- What is undone after a failure makes no difference. -/
theorem endingOf_onFailure (act : CallM σ β) (undo : Run σ → Run σ)
    (ok : β → Run σ → Option Ending) (failed : Ending) :
    endingOf (onFailure act undo) ok failed = endingOf act ok failed := by
  funext run
  unfold endingOf onFailure
  cases act run with
  | ok value run' => rfl
  | error e run' => rfl

/-- An action that is not the last one of its step. -/
theorem endingOf_bind {γ : Type} {act : CallM σ β} {f : β → CallM σ γ} {endings : List Ending}
    {seen : β → Run σ → Option Ending} {ok : γ → Phase σ α} {failed : Error → Phase σ α}
    {ending : Ending} {run : Run σ}
    (h : Ends act run
      (fun value run => P (endings ++ (seen value run).toList)
        (phaseAfter (f value) ok failed run).1 (phaseAfter (f value) ok failed run).2)
      fun e => P (endings ++ [ending]) (failed e)) :
    P (endings ++ (endingOf act seen ending run).toList)
      (phaseAfter (act >>= f) ok failed run).1 (phaseAfter (act >>= f) ok failed run).2 := by
  rcases hact : act run with ⟨value, run'⟩ | ⟨e, run'⟩
  · have hnext : (act >>= f) run = f value run' := by simp only [bind, EStateM.bind, hact]
    rw [endingOf_of_ok hact, phaseAfter, hnext]
    exact (ends_ok_iff hact).mp h
  · have hnext : (act >>= f) run = .error e run' := by simp only [bind, EStateM.bind, hact]
    rw [endingOf_of_error hact, phaseAfter_of_error hnext]
    exact (ends_error_iff hact).mp h

/-- The last action of a step, of which nothing but a failure ends. -/
theorem endingOf_last {act : CallM σ β} {endings : List Ending} {ok : β → Phase σ α}
    {failed : Error → Phase σ α} {ending : Ending} {run : Run σ}
    (h : Ends act run (fun value => P endings (ok value))
      fun e => P (endings ++ [ending]) (failed e)) :
    P (endings ++ (endingOf act (fun _ _ => none) ending run).toList)
      (phaseAfter act ok failed run).1 (phaseAfter act ok failed run).2 := by
  have hnext : Ends act run
      (fun value run => P (endings ++ (none : Option Ending).toList)
        (phaseAfter (pure value) ok failed run).1 (phaseAfter (pure value) ok failed run).2)
      fun e => P (endings ++ [ending]) (failed e) :=
    h.mono_ok fun value run h => (List.append_nil endings).symm ▸ h
  have hlast := endingOf_bind hnext
  rwa [bind_pure] at hlast

namespace EndingInvariant

variable {endings : List Ending} {run : Run σ}

theorem step (hP : EndingInvariant s P) {phase : Phase σ α} (h : P endings phase run) :
    P (endings ++ (ending? s (phase, run)).toList) (CallM.step s (phase, run)).1
      (CallM.step s (phase, run)).2 := by
  cases phase with
  | outset => exact endingOf_last (hP.launch endings run h)
  | begun => exact endingOf_last (hP.markOrigin endings run h)
  | ready o tally directive =>
    have hact : CallM.depart s o tally directive = (do
        checkInterruption s
        (do
          startAttempt s directive (tally.attempts + 1)
          prepare o directive)
        onFailure (sendOut s directive (tally.attempts + 1)) countFailedAttempt) := by
      simp only [CallM.depart, bind_assoc]
    rw [CallM.step, hact]
    refine endingOf_bind ((hP.depart endings o tally directive run h).mono_ok fun _ run h => ?_)
    refine endingOf_bind (h.mono_ok fun _ run h => ?_)
    rw [← endingOf_onFailure _ countFailedAttempt]
    exact endingOf_last (ends_onFailure.mpr h)
  | waiting o tally limit answer =>
    have harrive := hP.arrive endings o tally limit answer run h
    rw [CallM.step, ending?, ← endingOf_onFailure _ countFailedAttempt]
    exact endingOf_bind (ends_onFailure.mpr (harrive.mono_ok fun outcome run h => h.phaseAfter))
  | failing e =>
    rw [ending?, Option.toList_none, List.append_nil]
    exact hP.giveUp endings e run h
  | ended result =>
    rw [ending?, Option.toList_none, List.append_nil]
    exact h

theorem steps (hP : EndingInvariant s P) (h : P [] .outset run) (n : Nat) :
    P (seenIn s (ending? s) (.outset, run) n) ((CallM.step s)^[n] (.outset, run)).1
      ((CallM.step s)^[n] (.outset, run)).2 :=
  steps_of_seen (P := P) (fun _ _ _ h => hP.step h) h n

end EndingInvariant

end CallM

namespace Client

variable (c : Client σ) (handlers : Handlers σ α) (context : CallContext σ) (state : ClientState)
  (request : HttpRequest σ) (world : σ)

/-- How the attempts of the call ended, in order. -/
def endings : List Ending :=
  if state.isShutDown then []
  else
    let s := c.settingAt handlers context request world
    CallM.seenIn s (CallM.ending? s) (.outset, c.runAt state request world) c.maxSteps

variable {c handlers context state request world}

/-- What every step keeps of the endings so far is true of all endings when the call is over. -/
theorem exists_endings {P : List Ending → Phase σ α → Run σ → Prop}
    (hP : CallM.EndingInvariant (c.settingAt handlers context request world) P)
    (h : P [] .outset (c.runAt state request world)) (hs : state.isShutDown = false) :
    ∃ n result conducted,
      c.StandsAfter handlers context state request world n (.ended result) conducted ∧
      P (c.endings handlers context state request world) (.ended result) conducted := by
  obtain ⟨n, hn, result, conducted, -, hstands, -, -⟩ :=
    @exists_standsAfter_ended σ α c handlers context state request world hs
  refine ⟨n, result, conducted, hstands, ?_⟩
  have hsteps := hP.steps h n
  rw [hstands.2] at hsteps
  rwa [endings, hs, if_neg Bool.false_ne_true, CallM.seenIn_of_ended rfl hstands.2 hn]

end Client

end ServiceCall
