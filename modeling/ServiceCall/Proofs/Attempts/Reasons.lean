import ServiceCall.Proofs.Attempts.Bounds
import ServiceCall.Proofs.Call.Answer

/-!
Reasons for attempts. Between an attempt and the next one a call has come upon exactly one reason
to go on: a retry that was admitted, a redirect that is followed, or an authentication retry that
was granted.
-/

namespace ServiceCall

variable {σ α : Type}

namespace Journal

/-- When an attempt is started there have been as many reasons as attempts before it. -/
def Reasoned (before : Journal σ) : Event σ → Prop
  | .attemptStarted _ directive =>
    before.started = before.admitted + before.followed + directive.redirects + before.granted
  | _ => True

theorem reasoned_of_kind (before : Journal σ) (e : Event σ) (h : e.kind ∉ [.attemptStarted]) :
    before.Reasoned e := by
  cases e <;> first | trivial | exact absurd (by simp [Event.kind]) h

/-- Between two attempts in a row there is one reason for the second one. -/
def OneReasonEach (j : Journal σ) : Prop :=
  ∀ (before : Journal σ) number directive (between : Journal σ) number' directive' after,
    j = before ++ .attemptStarted number directive ::
      (between ++ .attemptStarted number' directive' :: after) →
    between.started = 0 → between.admitted + directive'.redirects + between.granted = 1

/-- Without attempts there are no redirects that are followed. -/
theorem followed_le_started (j : Journal σ) : j.followed ≤ j.started := by
  refine List.countP_mono_left fun e _ h => ?_
  cases e with
  | attemptStarted => rfl
  | _ => exact absurd h Bool.false_ne_true

theorem countP_block (count : Event σ → Bool) (before between : Journal σ) (e : Event σ) :
    (before ++ e :: between).countP count =
      before.countP count + (count e).toNat + between.countP count := by
  rw [List.append_cons, List.countP_append, countP_concat]

/-- What is true of the counts before every attempt is true of what lies between two of them. -/
theorem Obeys.oneReasonEach {j : Journal σ} (h : j.Obeys Reasoned) : j.OneReasonEach := by
  intro before number directive between number' directive' after heq hnone
  have hfirst : Reasoned before (.attemptStarted number directive) := h _ _ _ heq
  have hnext : Reasoned (before ++ .attemptStarted number directive :: between)
      (.attemptStarted number' directive') := by
    refine h _ _ after ?_
    rw [heq, List.append_assoc]
    rfl
  have hquiet := followed_le_started between
  have hdirective : (Event.attemptStarted number directive).isFollowed.toNat =
      directive.redirects := by
    cases directive <;> rfl
  simp only [Reasoned, started, admitted, followed, granted, countP_block, hdirective] at *
  simp only [Event.isStart, Event.isAdmission, Event.isGrant, Bool.toNat_true, Bool.toNat_false]
    at hnext
  omega

end Journal

namespace CallM

variable {s : CallSetting σ α}

theorem reasoned_dependsOn :
    DependsOn [.records .attemptStarted] fun run : Run σ => run.journal.Obeys Journal.Reasoned :=
  Journal.obeys_dependsOn [.attemptStarted] Journal.reasoned_of_kind

/-- The tally of the call is the count of its reasons. -/
theorem startAttempt_reasoned {tally : Tally} {directive : Directive σ} {run : Run σ}
    {followed : Nat} {failed : Error → Run σ → Prop}
    (h : Tallied s.limits tally.attempts followed tally run.journal)
    (hfollowed : followed + directive.redirects = tally.redirects)
    (hobeys : run.journal.Obeys Journal.Reasoned) :
    Ends (startAttempt s directive (tally.attempts + 1)) run
      (fun _ run' => run'.journal.Obeys Journal.Reasoned) failed := by
  refine (startAttempt_ends s directive _ run).mono_ok fun _ started hf => ?_
  refine reasoned_dependsOn _ _ _ (by decide) hf (hobeys.concat ?_)
  have hstarted := h.started
  have hadmitted := h.admitted
  have hgranted := h.granted
  have hbefore := h.followed
  unfold Journal.Reasoned
  omega

theorem depart_reasoned {o : Origin} {tally : Tally} {directive : Directive σ} {run : Run σ}
    (h : (Phase.ready o tally directive : Phase σ α).Tallies s.limits run.journal)
    (hobeys : run.journal.Obeys Journal.Reasoned) :
    Ends (depart s o tally directive) run (fun _ run' => run'.journal.Obeys Journal.Reasoned)
      fun _ run' => run'.journal.Obeys Journal.Reasoned := by
  obtain ⟨-, followed, hfollowed, h⟩ := h
  have hcheck := (checkInterruption_footprint s).keeps
    (tallied_dependsOn.and reasoned_dependsOn) (by decide) ⟨h, hobeys⟩
  unfold depart
  refine (hcheck.mono_failed fun _ _ h => h.2).bind fun _ _ h => ?_
  refine (startAttempt_reasoned h.1 hfollowed h.2).bind fun _ _ h => ?_
  exact (prepare_sendOut_footprint s o directive _).keeps reasoned_dependsOn (by decide) h

theorem reasoned_phaseInvariant (s : CallSetting σ α) :
    PhaseInvariant s fun phase run =>
      phase.Tallies s.limits run.journal ∧ run.journal.Obeys Journal.Reasoned where
  launch := fun run h => ((tallies_phaseInvariant s).launch run h.1).and
    ((launch_footprint s).keeps reasoned_dependsOn (by decide) h.2)
  markOrigin := fun run h => ((tallies_phaseInvariant s).markOrigin run h.1).and
    (markOrigin_footprint.keeps reasoned_dependsOn (by decide) h.2)
  depart := fun o tally directive run h =>
    ((tallies_phaseInvariant s).depart o tally directive run h.1).and (depart_reasoned h.1 h.2)
  arrive := fun o tally limit answer run h =>
    ((tallies_phaseInvariant s).arrive o tally limit answer run h.1).and <|
      (arrive_keeps reasoned_dependsOn (by decide) h.2).mono_ok fun t _ h => by
        cases t with
        | finished response => exact h
        | again tally directive less => exact h.2
  giveUp := fun e run h => ⟨(tallies_phaseInvariant s).giveUp e run h.1,
    reasoned_dependsOn _ _ _ (by decide) (giveUp_frame s run) h.2⟩

end CallM

/-- Each attempt of a call but the first one has its one reason. -/
theorem Client.call_oneReasonEach (c : Client σ) (handlers : Handlers σ α)
    (context : CallContext σ) (state : ClientState) (request : HttpRequest σ) (world : σ) :
    (c.call handlers context state request world).1.journal.OneReasonEach := by
  refine Journal.Obeys.oneReasonEach (obeys_of_phases [.attemptStarted] Journal.reasoned_of_kind
    (by decide) (CallM.reasoned_phaseInvariant (c.settingAt handlers context request world)) ?_
      fun _ _ h => h.2)
  exact ⟨Tallied.nil _, Journal.obeys_nil _⟩

end ServiceCall
