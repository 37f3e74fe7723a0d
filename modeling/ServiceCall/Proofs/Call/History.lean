import ServiceCall.Proofs.Call.Phases

/-!
Histories. Which answers of the transport a call has taken up can be read off the phases in which
it has been. What is known of a call may speak of these answers as well as of its run, and in the
end it speaks of all the answers that the transport gave.
-/

namespace ServiceCall

variable {σ α : Type}

/-- What the transport makes of a request. -/
abbrev Answer := Except TransportError HttpResponse

/-- The answer that is taken up next. -/
def Phase.answer? : Phase σ α → Option Answer
  | .waiting _ _ _ answer => some answer
  | .outset => none
  | .begun => none
  | .ready .. => none
  | .failing _ => none
  | .ended _ => none

namespace CallM

/-! ### What is seen of the steps -/

variable {τ : Type} {s : CallSetting σ α} {see : Phase σ α × Run σ → Option τ}
  {start : Phase σ α × Run σ}

/-- What is seen of the states before `n` steps. -/
def seenIn (s : CallSetting σ α) (see : Phase σ α × Run σ → Option τ)
    (start : Phase σ α × Run σ) (n : Nat) : List τ :=
  (List.range n).filterMap fun k => see ((step s)^[k] start)

theorem seenIn_succ (n : Nat) :
    seenIn s see start (n + 1) = seenIn s see start n ++ (see ((step s)^[n] start)).toList := by
  rw [seenIn, List.range_succ, List.filterMap_append, seenIn]
  congr 1

/-- Nothing is seen of a call that is over. -/
theorem seenIn_of_ended {n m : Nat} {result : Except Error (Response α)} {run : Run σ}
    (hsee : see (.ended result, run) = none) (h : (step s)^[n] start = (.ended result, run))
    (hle : n ≤ m) : seenIn s see start m = seenIn s see start n := by
  obtain ⟨k, rfl⟩ := Nat.exists_eq_add_of_le hle
  clear hle
  induction k with
  | zero => rfl
  | succ k ih =>
    have hended : (step s)^[n + k] start = (.ended result, run) := by
      rw [Nat.add_comm, Function.iterate_add_apply, h, step_ended]
    rw [← Nat.add_assoc, seenIn_succ, ih, hended, hsee]
    exact List.append_nil _

/-- What every step keeps of all that has been seen before it holds after any number of steps. -/
theorem steps_of_seen {P : List τ → Phase σ α → Run σ → Prop}
    (hP : ∀ seen phase run, P seen phase run →
      P (seen ++ (see (phase, run)).toList) (step s (phase, run)).1 (step s (phase, run)).2)
    {phase : Phase σ α} {run : Run σ} (h : P [] phase run) (n : Nat) :
    P (seenIn s see (phase, run) n) ((CallM.step s)^[n] (phase, run)).1
      ((CallM.step s)^[n] (phase, run)).2 := by
  induction n with
  | zero => exact h
  | succ n ih =>
    rw [Function.iterate_succ_apply', seenIn_succ]
    exact hP _ _ _ ih

/-! ### Answers and steps -/

/-- The answers that have been taken up after `n` steps. -/
def answersIn (s : CallSetting σ α) (start : Phase σ α × Run σ) (n : Nat) : List Answer :=
  (List.range n).filterMap fun k => ((step s)^[k] start).1.answer?

theorem answersIn_eq_seenIn (n : Nat) :
    answersIn s start n = seenIn s (fun stand => stand.1.answer?) start n := rfl

theorem answersIn_succ (n : Nat) :
    answersIn s start (n + 1) =
      answersIn s start n ++ ((step s)^[n] start).1.answer?.toList := by
  rw [answersIn_eq_seenIn, seenIn_succ, answersIn_eq_seenIn]

/-- Nothing is answered to a call that is over. -/
theorem answersIn_of_ended {n m : Nat} {result : Except Error (Response α)} {run : Run σ}
    (h : (step s)^[n] start = (.ended result, run)) (hle : n ≤ m) :
    answersIn s start m = answersIn s start n := by
  rw [answersIn_eq_seenIn, answersIn_eq_seenIn, seenIn_of_ended rfl h hle]

/-! ### What every step keeps -/

/-- What holds of the answers so far in each phase is shown for each kind of step. -/
structure HistoryInvariant (s : CallSetting σ α) (P : List Answer → Phase σ α → Run σ → Prop) :
    Prop where
  launch : ∀ answers run, P answers .outset run →
    Ends (launch s) run (fun _ => P answers .begun) fun e => P answers (.ended (.error e))
  markOrigin : ∀ answers run, P answers .begun run →
    Ends markOrigin run (fun o => P answers (.ready o {} .start)) fun e => P answers (.failing e)
  depart : ∀ answers o tally directive run, P answers (.ready o tally directive) run →
    Ends (depart s o tally directive) run (fun sent => P answers (.waiting o tally sent.1 sent.2))
      fun e => P answers (.failing e)
  arrive : ∀ answers o tally limit answer run, P answers (.waiting o tally limit answer) run →
    Ends (arrive s o tally limit answer) run (fun t => P (answers ++ [answer]) (nextPhase o t))
      fun e => P (answers ++ [answer]) (.failing e)
  giveUp : ∀ answers e run, P answers (.failing e) run →
    P answers (.ended (.error e)) (giveUp s run)

variable {P : List Answer → Phase σ α → Run σ → Prop}

theorem HistoryInvariant.step (hP : HistoryInvariant s P) {answers : List Answer}
    {phase : Phase σ α} {run : Run σ} (h : P answers phase run) :
    P (answers ++ phase.answer?.toList) (step s (phase, run)).1 (step s (phase, run)).2 := by
  cases phase with
  | waiting o tally limit answer =>
    exact (hP.arrive answers o tally limit answer run h).phaseAfter (P := P (answers ++ [answer]))
  | _ =>
    simp only [Phase.answer?, Option.toList_none, List.append_nil]
    first
      | exact (hP.launch answers run h).phaseAfter
      | exact (hP.markOrigin answers run h).phaseAfter
      | exact (hP.depart answers _ _ _ run h).phaseAfter
      | exact hP.giveUp answers _ run h
      | exact h

theorem HistoryInvariant.steps (hP : HistoryInvariant s P) {phase : Phase σ α} {run : Run σ}
    (h : P [] phase run) (n : Nat) :
    P (answersIn s (phase, run) n) ((CallM.step s)^[n] (phase, run)).1
      ((CallM.step s)^[n] (phase, run)).2 := by
  rw [answersIn_eq_seenIn]
  exact steps_of_seen (P := P) (fun _ _ _ h => hP.step h) h n

end CallM

namespace Client

variable (c : Client σ) (handlers : Handlers σ α) (context : CallContext σ) (state : ClientState)
  (request : HttpRequest σ) (world : σ)

/-- The answers that the call has taken up after so many steps. -/
def answersAfter (n : Nat) : List Answer :=
  CallM.answersIn (c.settingAt handlers context request world)
    (.outset, c.runAt state request world) n

/-- All that the transport answers to the call, in order. -/
def answers : List Answer :=
  if state.isShutDown then [] else c.answersAfter handlers context state request world c.maxSteps

variable {c handlers context state request world}

/-- When it is over, a call has taken up all answers. -/
theorem StandsAfter.answersAfter_eq {n : Nat} {result : Except Error (Response α)} {run : Run σ}
    (h : c.StandsAfter handlers context state request world n (.ended result) run) :
    c.answersAfter handlers context state request world n =
      c.answers handlers context state request world := by
  obtain ⟨m, hm, result', run', last, hended, -, -⟩ :=
    @exists_standsAfter_ended σ α c handlers context state request world h.1
  rw [answers, h.1, if_neg Bool.false_ne_true, answersAfter, answersAfter,
    CallM.answersIn_of_ended hended.2 hm]
  rcases Nat.le_total n m with hle | hle
  · exact (CallM.answersIn_of_ended h.2 hle).symm
  · exact CallM.answersIn_of_ended hended.2 hle

theorem StandsAfter.answersAfter_succ {n : Nat} {phase : Phase σ α} {run : Run σ}
    (h : c.StandsAfter handlers context state request world n phase run) :
    c.answersAfter handlers context state request world (n + 1) =
      c.answersAfter handlers context state request world n ++ phase.answer?.toList := by
  rw [answersAfter, CallM.answersIn_succ, h.2]
  rfl

/-- What every step keeps holds of the answers so far. -/
theorem StandsAfter.history {P : List Answer → Phase σ α → Run σ → Prop} {n : Nat}
    {phase : Phase σ α} {run : Run σ}
    (hstands : c.StandsAfter handlers context state request world n phase run)
    (hP : CallM.HistoryInvariant (c.settingAt handlers context request world) P)
    (h : P [] .outset (c.runAt state request world)) :
    P (c.answersAfter handlers context state request world n) phase run := by
  have hsteps := hP.steps h n
  rwa [hstands.2] at hsteps

end Client

end ServiceCall
