import ServiceCall.Proofs.Attempts.Bounds
import ServiceCall.Proofs.Call.Attempt
import ServiceCall.Proofs.Call.Closing
import ServiceCall.Proofs.Metrics.Endings
import ServiceCall.Proofs.Metrics.Score

/-!
The reckoning of a call. Its counters say how its attempts ended, and each time an attempt ended
without ending the call there is one reason why the call went on: a retry, a redirect or an
authentication retry.
-/

namespace ServiceCall

variable {σ α : Type}

/-! ### Why a call goes on -/

/-- How often a call has gone on for each reason. -/
structure Gains where
  retries : Nat := 0
  redirects : Nat := 0
  grants : Nat := 0

def Gains.total (g : Gains) : Nat := g.retries + g.redirects + g.grants

theorem length_concat_ending {endings : List Ending} {n : Nat} (h : endings.length = n)
    (ending : Ending) : (endings ++ [ending]).length = n + 1 := by
  rw [List.length_append, h, List.length_singleton]

/-- So many attempts were started, so many retries admitted and so many authentication retries
granted. -/
structure Journal.Gained (attempts retries grants : Nat) (j : Journal σ) : Prop where
  started : j.started = attempts
  admitted : j.admitted = retries
  granted : j.granted = grants

namespace Journal.Gained

variable {attempts retries grants : Nat} {j : Journal σ}

theorem append_quiet {new : Journal σ} (h : j.Gained attempts retries grants)
    (hn : ∀ e ∈ new, .records e.kind ∉ tallyEffects) :
    (j ++ new).Gained attempts retries grants := by
  constructor
  · rw [← h.started]
    exact Journal.countP_append_quiet (by simp [tallyCounts]) hn
  · rw [← h.admitted]
    exact Journal.countP_append_quiet (by simp [tallyCounts]) hn
  · rw [← h.granted]
    exact Journal.countP_append_quiet (by simp [tallyCounts]) hn

theorem concat (h : j.Gained attempts retries grants) (e : Event σ) :
    (j ++ [e]).Gained (attempts + e.isStart.toNat) (retries + e.isAdmission.toNat)
      (grants + e.isGrant.toNat) := by
  constructor
  · rw [← h.started]
    exact Journal.countP_concat ..
  · rw [← h.admitted]
    exact Journal.countP_concat ..
  · rw [← h.granted]
    exact Journal.countP_concat ..

end Journal.Gained

theorem gained_dependsOn (attempts retries grants : Nat) :
    DependsOn tallyEffects fun run : Run σ => run.journal.Gained attempts retries grants := by
  intro effects run run' hn hf h
  obtain ⟨new, hnew, hk⟩ := hf.journal
  rw [hnew]
  exact h.append_quiet fun e he hmem => hn _ hmem (hk e he)

/-- How many authentication retries the outcome grants. -/
def Outcome.grants {authAllowed : Bool} : Outcome σ α authAllowed → Nat
  | .authRetry .. => 1
  | .success _ => 0
  | .redirect _ => 0
  | .retryable _ => 0

namespace CallM

variable {s : CallSetting σ α} {attempts retries grants : Nat}

theorem gained_answerRule {authAllowed : Bool} (s : CallSetting σ α)
    (attempts retries grants : Nat) :
    AnswerRule s tallyEffects (fun run => run.journal.Gained attempts retries grants)
      (fun (outcome : Outcome σ α authAllowed) run =>
        run.journal.Gained attempts retries (grants + outcome.grants))
      fun _ run => run.journal.Gained attempts retries grants where
  dependsOn := gained_dependsOn attempts retries grants
  apart := by decide
  handleResult := by
    intro status reason r run h
    refine handleResult_ends (gained_dependsOn attempts retries grants) (by decide) ?_ (fun _ _ h => h)
      (fun _ _ h => h) h status reason r
    exact fun status handled r _ h =>
      (complete_footprint s status handled r).keeps (gained_dependsOn attempts retries grants) (by decide) h
  onRedirect := fun _ _ h => onRedirect_ends (fun _ => h) (fun _ _ _ => h) fun _ => h
  correctClock := fun headers e _ h =>
    (correctClock_footprint s headers e).keeps (gained_dependsOn attempts retries grants) (by decide) h
  askAuthRetry := by
    intro e run h
    refine askAuthRetry_ends h fun rule answer allowed _ _ _ => ?_
    have hasked := h.concat (.authAsked e answer.1.isSome)
    rw [ends_bind, ends_record]
    cases hanswer : answer.1 with
    | some parameters =>
      rw [hanswer] at hasked
      exact hasked
    | none =>
      rw [hanswer] at hasked
      exact hasked
  retryable := fun _ _ h => h
  fatal := fun _ _ _ h => h

/-- The condition is asked at most once, and it admits what is admitted. -/
theorem admits_gains (o : Origin) (failure : Error) (number : Nat) {run : Run σ}
    (h : run.journal.Gained attempts retries grants) :
    Ends (admits s o failure number) run
      (fun admitted run' => run'.journal.Gained attempts (retries + admitted.toNat) grants)
      fun _ _ => False := by
  refine (admits_ends s o failure number run).mono_ok fun admitted run' hadmission => ?_
  cases hadmission with
  | unrepeatable _ same =>
    rw [same]
    exact h
  | refused _ _ _ _ journal =>
    rw [journal]
    exact h.concat (.capacityRefused s.retryCost)
  | free _ failed _ _ _ _ journal =>
    rw [journal]
    exact h.concat (.conditionAsked failed admitted)
  | paid _ failed _ _ _ _ _ journal =>
    rw [journal, List.append_cons]
    exact (h.concat (.capacityTaken s.retryCost)).concat (.conditionAsked failed admitted)

end CallM

/-! ### Reckonings -/

/-- The counters say how the attempts have ended. One that has been started and has not ended yet
is counted as running. -/
structure Reckoned (base : Run σ) (endings : List Ending) (running : Nat) (gains : Gains)
    (run : Run σ) : Prop where
  counted : Counted {
    attempts := endings.countP Ending.isAttempt + running
    retries := gains.retries
    redirects := gains.redirects
    exceptions := endings.countP Ending.isException } base run
  gained : run.journal.Gained (endings.countP Ending.isAttempt + running) gains.retries gains.grants

/-- All on which a reckoning depends. -/
def reckoningEffects : List Effect := [.metrics, .clientMetrics] ++ tallyEffects

namespace Reckoned

variable {base run run' : Run σ} {endings : List Ending} {ending : Ending} {running : Nat}
  {gains : Gains}

theorem dependsOn : DependsOn reckoningEffects (Reckoned base endings running gains) := by
  intro effects run run' hn hf h
  refine ⟨h.counted.then_zero (.of_frame hf (hn _ (.head _)) (hn _ (.tail _ (.head _)))), ?_⟩
  exact gained_dependsOn _ _ _ _ _ _ (fun e he => hn e (List.mem_append_right _ he)) hf h.gained

/-- The attempt that is running ends, perhaps with an authentication retry. -/
theorem close {grants : Nat} (h : Reckoned base endings 1 gains run)
    (hending : ending.isAttempt = true)
    (hc : Counted { exceptions := ending.isException.toNat } run run')
    (hj : run'.journal.Gained (endings.countP Ending.isAttempt + 1) gains.retries grants) :
    Reckoned base (endings ++ [ending]) 0 { gains with grants } run' := by
  have hattempts : (endings ++ [ending]).countP Ending.isAttempt =
      endings.countP Ending.isAttempt + 1 := by
    rw [List.countP_append, List.countP_singleton, if_pos hending]
  have hexceptions : (endings ++ [ending]).countP Ending.isException =
      endings.countP Ending.isException + ending.isException.toNat := by
    rw [List.countP_append, List.countP_singleton]
    cases ending.isException <;> rfl
  rw [← hattempts] at hj
  refine ⟨?_, hj⟩
  rw [hattempts, hexceptions]
  exact h.counted.trans hc

/-- The call ends where an attempt would have been started. -/
theorem stop (h : Reckoned base endings 0 gains run) (hending : ending.isAttempt = false)
    (hexception : ending.isException = false) :
    Reckoned base (endings ++ [ending]) 0 gains run := by
  have hattempts : (endings ++ [ending]).countP Ending.isAttempt =
      endings.countP Ending.isAttempt := by
    rw [List.countP_append, List.countP_singleton, if_neg (by simp [hending]), Nat.add_zero]
  have hexceptions : (endings ++ [ending]).countP Ending.isException =
      endings.countP Ending.isException := by
    rw [List.countP_append, List.countP_singleton, if_neg (by simp [hexception]), Nat.add_zero]
  constructor
  · rw [hattempts, hexceptions]
    exact h.counted
  · rw [hattempts]
    exact h.gained

/-- The call goes on. -/
theorem gain {retries redirects grants : Nat} (h : Reckoned base endings 0 gains run)
    (hc : Counted { retries, redirects } run run')
    (hj : run'.journal.Gained (endings.countP Ending.isAttempt) (gains.retries + retries) grants) :
    Reckoned base endings 0
      { retries := gains.retries + retries, redirects := gains.redirects + redirects, grants }
      run' := ⟨h.counted.trans hc, hj⟩

end Reckoned

/-- What is known of the counters in each phase. As often as it has been settled how an attempt
ended, the call has gone on, unless it is over. -/
def Phase.Reckons (first base : Run σ) (endings : List Ending) : Phase σ α → Run σ → Prop
  | .outset, run => endings = [] ∧ run = first
  | .begun, run | .ready .., run =>
    ∃ gains, Reckoned base endings 0 gains run ∧ endings.length = gains.total
  | .waiting .., run =>
    ∃ gains, Reckoned base endings 1 gains run ∧ endings.length = gains.total
  | .failing _, run | .ended (.error _), run =>
    ∃ gains, Reckoned base endings 0 gains run ∧ endings.length = gains.total + 1
  | .ended (.ok _), run =>
    (∃ gains, Reckoned base endings 0 gains run ∧ endings.length = gains.total + 1) ∧
      run.metrics.status.isSome

namespace CallM

variable {s : CallSetting σ α} {first base run : Run σ} {endings : List Ending} {gains : Gains}

/-- The run of a call that has been counted. -/
def counting (run : Run σ) : Run σ :=
  { run with client := { run.client with metrics := run.client.metrics.begun } }

theorem reckoned_counting (hj : run.journal = []) : Reckoned (counting run) [] 0 {} (counting run) := by
  refine ⟨.refl _, ?_⟩
  rw [show (counting run).journal = [] from hj]
  exact ⟨rfl, rfl, rfl⟩

theorem launch_reckons (hm : s.client.config.metricsEnabled = true) (hj : first.journal = []) :
    Ends (launch s) first (fun _ => Reckoned (counting first) [] 0 {})
      fun _ => Reckoned (counting first) [] 0 {} := by
  unfold launch begin
  rw [ends_bind, ends_request, ends_bind, ends_bind, ends_countForClient, if_pos hm]
  -- Beside the count a call that begins tells milestones.
  refine Ends.mono_ok ((?_ : Footprint [.records .milestone] _).keeps Reckoned.dependsOn (by decide)
    (reckoned_counting hj)) ?_
  · refine .bind (announceTo_footprint _ _) fun _ => .bind .request fun r => ?_
    split
    · exact announceTo_footprint _ _
    · exact .pure ()
  · exact fun _ _ h => (setOut_footprint s).keeps Reckoned.dependsOn (by decide) h

theorem startAttempt_reckons (hm : s.client.config.metricsEnabled = true)
    (directive : Directive σ) (number : Nat) {failed : Error → Run σ → Prop}
    (h : Reckoned base endings 0 gains run) :
    Ends (startAttempt s directive number) run (fun _ => Reckoned base endings 1 gains) failed := by
  have hstarted := h.gained.concat (.attemptStarted number directive)
  refine ((startAttempt_counts hm directive number run).and
    (startAttempt_ends s directive number run)).mono (fun _ started hrun => ?_)
      fun e stopped (h : failed e stopped ∧ failed e stopped) => h.1
  refine ⟨h.counted.trans hrun.1, ?_⟩
  exact gained_dependsOn _ _ _ _ _ _ (by decide) hrun.2 hstarted

/-- An authentication retry that the answer grants is a gain. -/
theorem interpret_reckons {authAllowed : Bool} (hm : s.client.config.metricsEnabled = true)
    (limit : Option Duration) (answer : Answer) (h : Reckoned base endings 1 gains run) :
    Ends (interpret s limit answer : CallM σ (Outcome σ α authAllowed)) run
      (fun outcome run' => Counted {} run run' ∧
        run'.journal.Gained (endings.countP Ending.isAttempt + 1) gains.retries
          (gains.grants + outcome.grants) ∧
        ∀ response, outcome = .success response → run'.metrics.status.isSome)
      fun _ => Reckoned base endings 1 gains := by
  refine ((interpret_counts hm limit answer run).and
    ((gained_answerRule s _ gains.retries gains.grants).interpret h.gained limit answer)).mono ?_ ?_
  · exact fun _ _ h => ⟨h.1.1, h.2, h.1.2⟩
  · exact fun _ _ hfailed => ⟨h.counted.then_zero hfailed.1, hfailed.2⟩

variable {o : Origin} {tally : Tally}

/-- After a failure that might be retried the call goes on if the retry is admitted. -/
theorem conclude_retryable_reckons (hm : s.client.config.metricsEnabled = true) (failure : Error)
    (h : Reckoned base endings 1 gains run) (hlength : endings.length = gains.total) :
    Ends (conclude s o tally (.retryable failure)) run
      (fun t => (nextPhase o t).Reckons first base (endings ++ [Ending.retryable]))
      fun e => (Phase.failing e : Phase σ α).Reckons first base (endings ++ [Ending.retryable]) := by
  have hlength := length_concat_ending hlength .retryable
  unfold conclude
  dsimp only
  rw [ends_bind, countException, ends_count]
  have hclosed : Reckoned base (endings ++ [.retryable]) 0 gains (countFailedAttempt run) :=
    h.close rfl (countFailedAttempt_counts run) h.gained
  split
  · rw [ends_bind]
    refine (((admits_uncounted o failure (tally.attempts + 1)).ends _).and
      (admits_gains o failure (tally.attempts + 1) hclosed.gained)).mono ?_ fun _ _ h => h.2.elim
    rintro admitted asked ⟨hcounted, hgained⟩
    cases admitted with
    | true =>
      rw [if_pos rfl, ends_bind, ends_countForClient, if_pos hm]
      have hadmitted : Counted { retries := 1 } asked { asked with client := { asked.client with
          metrics := { asked.client.metrics with retries := asked.client.metrics.retries + 1 } } } :=
        ⟨rfl, rfl, rfl, rfl, rfl, ⟨0, rfl, rfl⟩, rfl, id⟩
      refine ⟨_, hclosed.gain (hcounted.trans hadmitted) hgained, ?_⟩
      rw [hlength]
      simp only [Gains.total]
      omega
    | false => exact ⟨gains, ⟨hclosed.counted.then_zero hcounted, hgained⟩, hlength⟩
  · exact ⟨gains, hclosed, hlength⟩

/-- What the outcome of an attempt means for the call. -/
theorem conclude_reckons (hm : s.client.config.metricsEnabled = true)
    (outcome : Outcome σ α (decide (tally.authRetries < s.limits.authRetries))) {run' : Run σ}
    (h : Reckoned base endings 1 gains run) (hlength : endings.length = gains.total)
    (hc : Counted {} run run')
    (hj : run'.journal.Gained (endings.countP Ending.isAttempt + 1) gains.retries
      (gains.grants + outcome.grants))
    (hstatus : ∀ response, outcome = .success response → run'.metrics.status.isSome) :
    Ends (conclude s o tally outcome) run'
      (fun t => (nextPhase o t).Reckons first base (endings ++ [outcome.ending]))
      fun e => (Phase.failing e : Phase σ α).Reckons first base (endings ++ [outcome.ending]) := by
  have hlength' := length_concat_ending hlength
  cases outcome with
  | success response =>
    have hclosed : Reckoned base (endings ++ [.success]) 0 gains run' := h.close rfl hc hj
    exact ⟨⟨gains, hclosed, hlength' _⟩, hstatus response rfl⟩
  | redirect target =>
    have hclosed : Reckoned base (endings ++ [.redirect]) 0 gains run' := h.close rfl hc hj
    unfold conclude
    dsimp only
    split
    · rw [ends_bind, ends_countForClient, if_pos hm]
      have hfollowed : Counted { redirects := 1 } run' { run' with client := { run'.client with
          metrics := { run'.client.metrics with
            redirects := run'.client.metrics.redirects + 1 } } } :=
        ⟨rfl, rfl, rfl, rfl, rfl, ⟨0, rfl, rfl⟩, rfl, id⟩
      refine ⟨_, hclosed.gain hfollowed hclosed.gained, ?_⟩
      rw [hlength']
      simp only [Gains.total]
      omega
    · exact ⟨gains, hclosed, hlength' _⟩
  | authRetry parameters allowed =>
    refine ⟨{ gains with grants := gains.grants + 1 }, h.close rfl hc hj, hlength' _⟩
  | retryable failure =>
    exact conclude_retryable_reckons hm failure ⟨h.counted.then_zero hc, hj⟩ hlength

theorem reckons_endingInvariant (hm : s.client.config.metricsEnabled = true)
    (hj : first.journal = []) :
    EndingInvariant s (Phase.Reckons first (counting first)) where
  launch := by
    rintro _ _ ⟨rfl, rfl⟩
    refine (launch_reckons hm hj).mono (fun _ _ h => ⟨{}, h, rfl⟩) fun _ _ h => ?_
    exact ⟨{}, h.stop rfl rfl, rfl⟩
  markOrigin := by
    rintro endings run ⟨gains, h, hlength⟩
    refine (markOrigin_footprint.keeps Reckoned.dependsOn (by decide) h).mono
      (fun _ _ h => ⟨gains, h, hlength⟩) fun _ _ h => ?_
    exact ⟨gains, h.stop rfl rfl, length_concat_ending hlength .unmade⟩
  depart := by
    rintro endings o tally directive run ⟨gains, h, hlength⟩
    have hlength' := length_concat_ending hlength
    refine ((checkInterruption_footprint s).keeps Reckoned.dependsOn (by decide) h).mono
      (fun _ checked h => ?_) fun _ _ h => ⟨gains, h.stop rfl rfl, hlength' _⟩
    refine (startAttempt_reckons hm directive (tally.attempts + 1) h).bind fun _ started h => ?_
    refine ((prepare_footprint o directive).keeps Reckoned.dependsOn (by decide) h).mono
      (fun _ prepared h => ?_) fun _ _ h =>
        ⟨gains, h.close rfl (.refl _) h.gained, hlength' _⟩
    refine ((sendOut_footprint s directive _).keeps Reckoned.dependsOn (by decide) h).mono
      (fun _ _ h => ⟨gains, h, hlength⟩) fun _ failed h => ?_
    exact ⟨gains, h.close rfl (countFailedAttempt_counts failed) h.gained, hlength' _⟩
  arrive := by
    rintro endings o tally limit answer run ⟨gains, h, hlength⟩
    refine (interpret_reckons hm limit answer h).mono (fun outcome run' houtcome => ?_)
      fun _ failed h => ⟨gains, h.close rfl (countFailedAttempt_counts failed) h.gained,
        length_concat_ending hlength .fatal⟩
    obtain ⟨hcounted, hgained, hstatus⟩ := houtcome
    exact conclude_reckons hm outcome h hlength hcounted hgained hstatus
  giveUp := by
    rintro endings _ run ⟨gains, h, hlength⟩
    exact ⟨gains, Reckoned.dependsOn _ _ _ (by decide) (giveUp_frame s run) h, hlength⟩

end CallM

/-- A call that is over has been reckoned, and the client has counted its result. -/
theorem Client.exists_reckoned {c : Client σ} (hm : c.config.metricsEnabled = true)
    {handlers : Handlers σ α} {context : CallContext σ} {state : ClientState}
    {request : HttpRequest σ} {world : σ} (hs : state.isShutDown = false) :
    let report := (c.call handlers context state request world).1
    let endings := c.endings handlers context state request world
    ∃ conducted gains,
      Reckoned (CallM.counting (c.runAt state request world)) endings 0 gains conducted ∧
      endings.length = gains.total + 1 ∧
      (∀ response, report.result = .ok response → conducted.metrics.status.isSome) ∧
      report.context.metrics = conducted.metrics ∧
      report.client.metrics =
        (conducted.client.metrics.completed conducted.metrics.status report.result).ended ∧
      report.journal.Gained (endings.countP Ending.isAttempt) gains.retries gains.grants := by
  intro report endings
  obtain ⟨n, result, conducted, hstands, hreckons⟩ :=
    Client.exists_endings (CallM.reckons_endingInvariant hm rfl) ⟨rfl, rfl⟩ hs
  obtain ⟨last, hframe, hreport⟩ := hstands.reports
  have hresult : report.result = result := hreport.result
  have hover : (∃ gains, Reckoned (CallM.counting (c.runAt state request world)) endings 0 gains
      conducted ∧ endings.length = gains.total + 1) ∧
        ∀ response, report.result = .ok response → conducted.metrics.status.isSome := by
    rw [hresult]
    cases result with
    | ok response => exact ⟨hreckons.1, fun _ _ => hreckons.2⟩
    | error e => exact ⟨hreckons, by simp⟩
  obtain ⟨⟨gains, hreckoned, hlength⟩, hstatus⟩ := hover
  have hcall := congrArg Prod.fst hstands.call_eq
  refine ⟨conducted, gains, hreckoned, hlength, hstatus, ?_, ?_, ?_⟩
  · exact congrArg (·.context.metrics) hcall
  · rw [hresult, show report.client = _ from congrArg (·.client) hcall]
    exact if_pos hm
  · rw [show report.journal = last.journal from hreport.journal]
    exact gained_dependsOn _ _ _ _ _ _ (by decide) hframe hreckoned.gained

end ServiceCall
