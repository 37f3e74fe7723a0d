import ServiceCall.Proofs.Call.Admission
import ServiceCall.Proofs.Call.Law
import ServiceCall.Proofs.Call.Phases
import ServiceCall.Proofs.Attempts.Redirection

/-!
Bounds of a call. The journal counts what the tally of a call counts, so what the limits say of
the tally is true of everything that the call has done.
-/

namespace ServiceCall

variable {σ α : Type}

/-! ### Counts of the journal -/

namespace Event

def isStart : Event σ → Bool
  | .attemptStarted .. => true
  | _ => false

def isFollowed : Event σ → Bool
  | .attemptStarted _ (.redirect _) => true
  | _ => false

def isGrant : Event σ → Bool
  | .authAsked _ granted => granted
  | _ => false

def isAdmission : Event σ → Bool
  | .conditionAsked _ admitted => admitted
  | _ => false

end Event

/-- What is counted. -/
def tallyCounts : List (Event σ → Bool) :=
  [Event.isStart, Event.isFollowed, Event.isGrant, Event.isAdmission]

/-- The events that count. -/
def tallyEffects : List Effect :=
  [.records .attemptStarted, .records .authAsked, .records .conditionAsked]

namespace Journal

/-- Attempts that were started. -/
def started (j : Journal σ) : Nat := j.countP Event.isStart

/-- Attempts that were started because of a redirect. -/
def followed (j : Journal σ) : Nat := j.countP Event.isFollowed

/-- Authentication retries that were granted. -/
def granted (j : Journal σ) : Nat := j.countP Event.isGrant

/-- Retries that were admitted. -/
def admitted (j : Journal σ) : Nat := j.countP Event.isAdmission

theorem counted_of_mem {count : Event σ → Bool} (hcount : count ∈ tallyCounts) {e : Event σ}
    (h : count e = true) : .records e.kind ∈ tallyEffects := by
  simp only [tallyCounts, List.mem_cons, List.not_mem_nil, or_false] at hcount
  rcases hcount with rfl | rfl | rfl | rfl <;> cases e <;>
    first | exact absurd h Bool.false_ne_true | simp [Event.kind, tallyEffects]

theorem countP_concat (count : Event σ → Bool) (j : Journal σ) (e : Event σ) :
    (j ++ [e]).countP count = j.countP count + (count e).toNat := by
  rw [List.countP_append, List.countP_singleton]
  cases count e <;> rfl

/-- Events that do not count leave every count as it is. -/
theorem countP_append_quiet {count : Event σ → Bool} {j new : Journal σ}
    (hcount : count ∈ tallyCounts) (hn : ∀ e ∈ new, .records e.kind ∉ tallyEffects) :
    (j ++ new).countP count = j.countP count := by
  have hzero : new.countP count = 0 :=
    List.countP_eq_zero.mpr fun e he htrue => hn e he (counted_of_mem hcount htrue)
  rw [List.countP_append, hzero, Nat.add_zero]

/-- Attempts are numbered. What is retried, or might be, is an attempt that the limit for retries
lets pass, and authentication retries are not asked for beyond their limit. -/
def WithinLimits (l : CallLimits) (before : Journal σ) : Event σ → Prop
  | .attemptStarted number directive => number = before.started + 1 ∧
      ∀ failure, directive = .retry failure → before.started ≤ l.retries
  | .conditionAsked failed _ => failed.attempts = before.started ∧ before.started ≤ l.retries
  | .authAsked .. => before.granted < l.authRetries
  | _ => True

theorem withinLimits_of_quiet {l : CallLimits} {e : Event σ} (before : Journal σ)
    (h : .records e.kind ∉ tallyEffects) : before.WithinLimits l e := by
  cases e <;> first | trivial | exact absurd (by simp [Event.kind, tallyEffects]) h

end Journal

/-! ### Journals and tallies -/

/-- The journal of a call with this tally that has started so many attempts, so many of them
because of redirects. -/
structure Tallied (l : CallLimits) (started followed : Nat) (t : Tally) (j : Journal σ) :
    Prop where
  started : j.started = started
  followed : j.followed = followed
  granted : j.granted = t.authRetries
  admitted : j.admitted + t.redirects + t.authRetries = t.attempts
  redirects : t.redirects ≤ l.redirects
  authRetries : t.authRetries ≤ l.authRetries
  retries : j.admitted ≤ l.retries
  obeys : j.Obeys (Journal.WithinLimits l)

/-- The journal of a call that has ended between any two of its steps. -/
def Halted (l : CallLimits) (j : Journal σ) : Prop :=
  ∃ started followed t, started ≤ t.attempts + 1 ∧ followed ≤ t.redirects ∧
    Tallied l started followed t j

/-- The count of redirects is ahead of the journal until the attempt is started. -/
def Directive.redirects : Directive σ → Nat
  | .redirect _ => 1
  | .start => 0
  | .retry _ => 0
  | .authRetry _ => 0

/-- What the journal says in each phase of a call. -/
def Phase.Tallies (l : CallLimits) : Phase σ α → Journal σ → Prop
  | .outset, j => Tallied l 0 0 {} j
  | .begun, j => Tallied l 0 0 {} j
  | .ready _ tally directive, j => (∀ failure, directive = .retry failure →
      tally.attempts ≤ l.retries) ∧ ∃ followed, followed + directive.redirects = tally.redirects ∧
        Tallied l tally.attempts followed tally j
  | .waiting _ tally _ _, j => Tallied l (tally.attempts + 1) tally.redirects tally j
  | .failing _, j => Halted l j
  | .ended _, j => Halted l j

/-- What the journal says after an attempt. -/
def Outcome.Tallies {authAllowed : Bool} (l : CallLimits) (t : Tally) :
    Outcome σ α authAllowed → Journal σ → Prop
  | .authRetry .., j => Tallied l (t.attempts + 1) t.redirects t.authRetried j
  | .success _, j => Tallied l (t.attempts + 1) t.redirects t j
  | .redirect _, j => Tallied l (t.attempts + 1) t.redirects t j
  | .retryable _, j => Tallied l (t.attempts + 1) t.redirects t j

namespace Tallied

variable {l : CallLimits} {started followed : Nat} {t : Tally} {j new : Journal σ}

theorem nil (l : CallLimits) : Tallied l 0 0 {} ([] : Journal σ) where
  started := rfl
  followed := rfl
  granted := rfl
  admitted := rfl
  redirects := Nat.zero_le _
  authRetries := Nat.zero_le _
  retries := Nat.zero_le _
  obeys := Journal.obeys_nil _

/-- Events that do not count make no difference. -/
theorem append (h : Tallied l started followed t j)
    (hn : ∀ e ∈ new, .records e.kind ∉ tallyEffects) : Tallied l started followed t (j ++ new) := by
  have hadmitted : (j ++ new).admitted = j.admitted :=
    Journal.countP_append_quiet (by simp [tallyCounts]) hn
  constructor
  · rw [← h.started]
    exact Journal.countP_append_quiet (by simp [tallyCounts]) hn
  · rw [← h.followed]
    exact Journal.countP_append_quiet (by simp [tallyCounts]) hn
  · rw [← h.granted]
    exact Journal.countP_append_quiet (by simp [tallyCounts]) hn
  · rw [hadmitted, h.admitted]
  · exact h.redirects
  · exact h.authRetries
  · rw [hadmitted]
    exact h.retries
  · exact h.obeys.append_of_free fun e he before => Journal.withinLimits_of_quiet before (hn e he)

/-- An event that counts leads from one tally to another. -/
theorem concat {started' followed' : Nat} {t' : Tally} {e : Event σ}
    (h : Tallied l started followed t j) (hlaw : j.WithinLimits l e)
    (hstarted : started + e.isStart.toNat = started')
    (hfollowed : followed + e.isFollowed.toNat = followed')
    (hgranted : t.authRetries + e.isGrant.toNat = t'.authRetries)
    (hadmitted : j.admitted + e.isAdmission.toNat + t'.redirects + t'.authRetries = t'.attempts)
    (hredirects : t'.redirects ≤ l.redirects) (hauthRetries : t'.authRetries ≤ l.authRetries)
    (hretries : j.admitted + e.isAdmission.toNat ≤ l.retries) :
    Tallied l started' followed' t' (j ++ [e]) where
  started := by rw [← hstarted, ← h.started]; exact Journal.countP_concat ..
  followed := by rw [← hfollowed, ← h.followed]; exact Journal.countP_concat ..
  granted := by rw [← hgranted, ← h.granted]; exact Journal.countP_concat ..
  admitted := by rw [← hadmitted, Journal.admitted, Journal.countP_concat]; rfl
  redirects := hredirects
  authRetries := hauthRetries
  retries := by rw [Journal.admitted, Journal.countP_concat]; exact hretries
  obeys := h.obeys.concat hlaw

theorem start (h : Tallied l t.attempts followed t j) {directive : Directive σ}
    (hretry : ∀ failure, directive = .retry failure → t.attempts ≤ l.retries)
    (hfollowed : followed + directive.redirects = t.redirects) :
    Tallied l (t.attempts + 1) t.redirects t
      (j ++ [.attemptStarted (t.attempts + 1) directive]) := by
  refine h.concat ⟨?_, fun failure heq => ?_⟩ rfl ?_ rfl h.admitted h.redirects h.authRetries
    h.retries
  · rw [h.started]
  · rw [h.started]
    exact hretry failure heq
  · rw [← hfollowed]
    cases directive <;> rfl

/-- The rule for authentication retries has answered. -/
theorem ask (h : Tallied l (t.attempts + 1) followed t j) (hlaw : t.authRetries < l.authRetries)
    (e : ServiceError) (granted : Bool) :
    Tallied l (t.attempts + 1) followed (if granted then t.authRetried else t)
      (j ++ [.authAsked e granted]) := by
  have hadmitted := h.admitted
  have hasked : j.WithinLimits l (.authAsked e granted) := by
    rw [Journal.WithinLimits, h.granted]
    exact hlaw
  cases granted with
  | true =>
    refine h.concat hasked rfl rfl rfl ?_ h.redirects hlaw h.retries
    simp only [Event.isAdmission, Bool.toNat_false, Tally.authRetried, if_true]
    omega
  | false => exact h.concat hasked rfl rfl rfl hadmitted h.redirects h.authRetries h.retries

/-- The condition for retries has answered. -/
theorem judge (h : Tallied l (t.attempts + 1) followed t j) (hlaw : t.attempts < l.retries)
    {failed : FailedAttempt σ} (hfailed : failed.attempts = t.attempts + 1) (admitted : Bool) :
    Tallied l (t.attempts + 1) followed (if admitted then t.retried else t)
      (j ++ [.conditionAsked failed admitted]) := by
  have hadmitted := h.admitted
  have hasked : j.WithinLimits l (.conditionAsked failed admitted) :=
    ⟨hfailed.trans h.started.symm, h.started ▸ hlaw⟩
  cases admitted with
  | true =>
    refine h.concat hasked rfl rfl rfl ?_ h.redirects h.authRetries ?_
    · simp only [Event.isAdmission, Bool.toNat_true, Tally.retried, if_true]
      omega
    · simp only [Event.isAdmission, Bool.toNat_true]
      omega
  | false => exact h.concat hasked rfl rfl rfl hadmitted h.redirects h.authRetries h.retries

/-- A redirect within the limit is followed. -/
theorem redirect (h : Tallied l (t.attempts + 1) t.redirects t j)
    (hlaw : t.redirects < l.redirects) :
    Tallied l (t.attempts + 1) t.redirects t.redirected j := by
  have hadmitted := h.admitted
  refine ⟨h.started, h.followed, h.granted, ?_, hlaw, h.authRetries, h.retries, h.obeys⟩
  simp only [Tally.redirected]
  omega

theorem halted (h : Tallied l (t.attempts + 1) t.redirects t j) : Halted l j :=
  ⟨_, _, t, Nat.le_refl _, Nat.le_refl _, h⟩

end Tallied

/-- What the limits say of a journal. -/
theorem Halted.bounds {l : CallLimits} {j : Journal σ} (h : Halted l j) :
    j.started ≤ 1 + l.retries + l.redirects + l.authRetries ∧ j.followed ≤ l.redirects ∧
      j.granted ≤ l.authRetries ∧ j.admitted ≤ l.retries ∧ j.Obeys (Journal.WithinLimits l) := by
  obtain ⟨started, followed, t, hs, hf, h⟩ := h
  obtain ⟨hstarted, hfollowed, hgranted, hadmitted, hredirects, hauthRetries, hretries, hobeys⟩ := h
  exact ⟨by omega, by omega, by omega, hretries, hobeys⟩

/-! ### Every step -/

section

variable {l : CallLimits} {started followed : Nat} {t : Tally}

theorem tallied_dependsOn :
    DependsOn tallyEffects fun run : Run σ => Tallied l started followed t run.journal := by
  intro effects run run' hn hf h
  obtain ⟨new, hnew, hk⟩ := hf.journal
  rw [hnew]
  exact h.append fun e he hmem => hn _ hmem (hk e he)

theorem halted_dependsOn : DependsOn tallyEffects fun run : Run σ => Halted l run.journal := by
  rintro effects run run' hn hf ⟨started, followed, t, hs, hfollowed, h⟩
  exact ⟨started, followed, t, hs, hfollowed, tallied_dependsOn effects run run' hn hf h⟩

end

namespace CallM

variable {s : CallSetting σ α} {o : Origin} {tally : Tally} {run : Run σ}

/-- What does not count keeps the tally of a call whose attempt has been started. -/
theorem Footprint.tallies {β : Type} {effects : List Effect} {act : CallM σ β} {l : CallLimits}
    (hact : Footprint effects act) (hn : ∀ effect ∈ tallyEffects, effect ∉ effects)
    (h : Tallied l (tally.attempts + 1) tally.redirects tally run.journal) :
    Ends act run
      (fun _ run' => Tallied l (tally.attempts + 1) tally.redirects tally run'.journal)
      fun _ run' => Halted l run'.journal :=
  (hact.keeps tallied_dependsOn hn h).mono (fun _ _ h => h) fun _ _ h => h.halted

theorem tallies_answerRule (s : CallSetting σ α) (tally : Tally) :
    AnswerRule s tallyEffects
      (fun run => Tallied s.limits (tally.attempts + 1) tally.redirects tally run.journal)
      (fun (outcome : Outcome σ α (decide (tally.authRetries < s.limits.authRetries))) run =>
        outcome.Tallies s.limits tally run.journal)
      fun _ run => Halted s.limits run.journal where
  dependsOn := tallied_dependsOn
  apart := by decide
  handleResult := by
    intro status reason r run h
    refine handleResult_ends tallied_dependsOn (by decide) ?_ (fun _ _ h => h)
      (fun _ _ h => h.halted) h status reason r
    exact fun status handled r _ h => (complete_footprint s status handled r).tallies (by decide) h
  onRedirect := fun _ _ h => onRedirect_ends (fun _ => h) (fun _ _ _ => h) fun _ => h.halted
  correctClock := fun headers e _ h => (correctClock_footprint s headers e).tallies (by decide) h
  askAuthRetry := by
    intro e run h
    refine askAuthRetry_ends h fun rule answer allowed _ _ _ => ?_
    have hasked := h.ask (of_decide_eq_true allowed) e answer.1.isSome
    rw [ends_bind, ends_record]
    cases hanswer : answer.1 with
    | some parameters =>
      rw [hanswer] at hasked
      exact hasked
    | none =>
      rw [hanswer] at hasked
      exact hasked
  retryable := fun _ _ h => h
  fatal := fun _ _ _ h => h.halted

theorem admits_tallies {failure : Error} (hlaw : tally.attempts < s.limits.retries)
    (h : Tallied s.limits (tally.attempts + 1) tally.redirects tally run.journal) :
    Ends (admits s o failure (tally.attempts + 1)) run
      (fun admitted run' => Tallied s.limits (tally.attempts + 1) tally.redirects
        (if admitted then tally.retried else tally) run'.journal)
      fun _ run' => Halted s.limits run'.journal := by
  refine (admits_ends s o failure (tally.attempts + 1) run).mono ?_ fun _ _ h => h.elim
  intro admitted run' hadmission
  cases hadmission with
  | unrepeatable _ same =>
    rw [same]
    exact h
  | refused _ _ _ _ journal =>
    rw [journal]
    exact h.append (by simp [Event.kind, tallyEffects])
  | free _ failed tells _ _ _ journal =>
    rw [journal]
    exact h.judge hlaw tells.attempts admitted
  | paid _ failed tells _ _ _ _ journal =>
    have hpaid : Tallied s.limits (tally.attempts + 1) tally.redirects tally
        (run.journal ++ [.capacityTaken s.retryCost]) :=
      h.append (by simp [Event.kind, tallyEffects])
    rw [journal, List.append_cons]
    exact hpaid.judge hlaw tells.attempts admitted

theorem conclude_tallies
    (outcome : Outcome σ α (decide (tally.authRetries < s.limits.authRetries)))
    (h : outcome.Tallies s.limits tally run.journal) :
    Ends (conclude s o tally outcome) run
      (fun t run' => (nextPhase o t).Tallies s.limits run'.journal)
      fun _ run' => Halted s.limits run'.journal := by
  have hcount : ∀ (f : ClientMetrics → ClientMetrics) {followed : Nat} {t : Tally} {run : Run σ},
      Tallied s.limits (tally.attempts + 1) followed t run.journal →
      Ends (countForClient s f) run
        (fun _ run' => Tallied s.limits (tally.attempts + 1) followed t run'.journal)
        fun _ run' => Halted s.limits run'.journal := by
    intro f followed t run h
    rw [ends_countForClient]
    exact h
  unfold conclude
  cases outcome with
  | success response => exact Tallied.halted h
  | redirect target =>
    dsimp only
    split
    · next hlaw =>
      refine (hcount _ (Tallied.redirect h hlaw)).bind fun _ _ h => ?_
      exact ⟨by simp, _, rfl, h⟩
    · exact Tallied.halted h
  | authRetry parameters allowed =>
    exact ⟨by simp, _, rfl, h⟩
  | retryable failure =>
    have h : Tallied s.limits (tally.attempts + 1) tally.redirects tally run.journal := h
    refine (countException_footprint.tallies (by decide) h).bind fun _ _ h => ?_
    split
    · next hlaw =>
      refine (admits_tallies hlaw h).bind fun admitted _ h => ?_
      cases admitted with
      | true =>
        refine (hcount _ h).bind fun _ _ h => ?_
        exact ⟨fun _ _ => hlaw, _, rfl, h⟩
      | false => exact h.halted
    · exact h.halted

theorem depart_tallies (directive : Directive σ)
    (h : (Phase.ready o tally directive : Phase σ α).Tallies s.limits run.journal) :
    Ends (depart s o tally directive) run
      (fun _ run' => Tallied s.limits (tally.attempts + 1) tally.redirects tally run'.journal)
      fun _ run' => Halted s.limits run'.journal := by
  obtain ⟨hretry, followed, hfollowed, h⟩ := h
  unfold depart
  refine (((checkInterruption_footprint s).keeps tallied_dependsOn (by decide) h).mono
    (fun _ _ h => h) fun _ _ h => ?_).bind fun _ _ h => ?_
  -- An interruption leaves a redirect that is counted, but whose attempt was never started.
  · exact ⟨_, _, tally, Nat.le_succ _, Nat.le.intro hfollowed, h⟩
  · refine (startAttempt_ends s directive _ _).bind fun _ _ hf => ?_
    have hstarted := tallied_dependsOn _ _ _ (by decide) hf (h.start hretry hfollowed)
    exact (prepare_sendOut_footprint s o directive _).tallies (by decide) hstarted

theorem tallies_phaseInvariant (s : CallSetting σ α) :
    PhaseInvariant s fun phase run => phase.Tallies s.limits run.journal where
  launch := fun _ h =>
    ((launch_footprint s).keeps tallied_dependsOn (by decide) h).mono (fun _ _ h => h)
      fun _ _ h => ⟨0, 0, {}, by decide, by decide, h⟩
  markOrigin := fun _ h =>
    (markOrigin_footprint.keeps tallied_dependsOn (by decide) h).mono
      (fun _ _ h => ⟨by simp, 0, rfl, h⟩)
      fun _ _ h => ⟨0, 0, {}, by decide, by decide, h⟩
  depart := fun _ _ directive _ h => depart_tallies directive h
  arrive := by
    intro o tally limit answer run h
    have hinterpret := (tallies_answerRule s tally).interpret h limit answer
    refine Ends.bind (ends_onFailure.mpr (hinterpret.mono (fun _ _ h => h) ?_))
      fun outcome _ h => conclude_tallies outcome h
    exact fun _ run h =>
      halted_dependsOn _ _ _ (by decide) (countFailedAttempt_frame run) h
  giveUp := fun _ run h => halted_dependsOn _ _ _ (by decide) (giveUp_frame s run) h

/-- A redirect beyond the limit ends the call. -/
theorem arrive_beyond_redirects {limit : Option Duration} {response : HttpResponse}
    {location : String} {target : Uri} (hlimit : s.limits.redirects ≤ tally.redirects)
    (hlocation : location? response = some location)
    (hrep : run.request.body.isRepeatable = true)
    (htarget : run.request.fullUri.toOption.bind (Address.resolve? · location) = some target) :
    Ends (arrive s o tally limit (.ok response)) run (fun _ _ => False)
      fun e _ => e = .redirectLimitExceeded s.limits.redirects run.request.method
        run.request.loggedUri := by
  have hredirected : Ends (onResponse s response) run
      (fun (outcome : Outcome σ α (decide (tally.authRetries < s.limits.authRetries))) run' =>
        outcome = .redirect target ∧ run'.request = run.request) fun _ _ => False := by
    refine onResponse_ends_of_location hlocation fun run' hf => ?_
    have hsame : run'.request = run.request :=
      RequestPart.eq_of_spares fun part _ => hf.part (by simp)
    refine onRedirect_ends (fun hrep' => ?_) (fun target' _ htarget' => ?_) fun hnone => ?_
    · rw [hsame, hrep] at hrep'
      cases hrep'
    · rw [hsame, htarget] at htarget'
      exact ⟨congrArg Outcome.redirect (Option.some.inj htarget').symm, hsame⟩
    · rw [hsame, htarget] at hnone
      cases hnone
  unfold arrive
  refine Ends.bind (ends_onFailure.mpr (hredirected.mono (fun _ _ h => h) fun _ _ h => h.elim)) ?_
  rintro _ run' ⟨rfl, hsame⟩
  unfold conclude
  dsimp only
  rw [dif_neg (Nat.not_lt.mpr hlimit), ends_bind, ends_request, ends_throw, hsame]

end CallM

/-- Every call ends after a number of steps that its limits determine, and until then it stays
within them, whatever anybody answers: with at most `retries` retries, `redirects` redirects and
`authRetries` authentication retries, there is at most one attempt more than these. A redirect
that can be followed, but is beyond the limit, ends the call. -/
theorem call_within_limits (c : Client σ) (handlers : Handlers σ α) (context : CallContext σ)
    (state : ClientState) (request : HttpRequest σ) (world : σ) :
    let report := (c.call handlers context state request world).1
    let limits : CallLimits := ⟨c.config.maxRedirects, c.config.maxAuthRetries, c.config.maxRetries⟩
    (state.isShutDown = false → ∃ n ≤ c.maxSteps, ∃ run,
      c.StandsAfter handlers context state request world n (.ended report.result) run) ∧
    (report.journal.started ≤ 1 + limits.retries + limits.redirects + limits.authRetries ∧
      report.journal.followed ≤ limits.redirects ∧
      report.journal.granted ≤ limits.authRetries ∧
      report.journal.admitted ≤ limits.retries ∧
      report.journal.Obeys (Journal.WithinLimits limits)) ∧
    ∀ n origin tally limit response run location target,
      c.StandsAfter handlers context state request world n
        (.waiting origin tally limit (.ok response)) run →
      run.journal.followed = limits.redirects →
      CallM.location? response = some location → run.request.body.isRepeatable = true →
      run.request.fullUri.toOption.bind (Address.resolve? · location) = some target →
      report.result = .error (.redirectLimitExceeded limits.redirects run.request.method
        run.request.loggedUri) := by
  intro report limits
  have hinvariant := CallM.tallies_phaseInvariant (c.settingAt handlers context request world)
  have hstart : (Phase.outset : Phase σ α).Tallies limits (c.runAt state request world).journal :=
    Tallied.nil limits
  refine ⟨fun hs => ?_, ?_, ?_⟩
  · obtain ⟨n, hn, result, conducted, last, hstands, -, hreport⟩ :=
      @Client.exists_standsAfter_ended σ α c handlers context state request world hs
    exact ⟨n, hn, conducted, hreport.result ▸ hstands⟩
  · cases hs : state.isShutDown with
    | true =>
      have hreport : report.journal = [] := by
        rw [show report = _ from Client.call_of_isShutDown hs]
      rw [hreport]
      exact Halted.bounds ⟨0, 0, {}, by decide, by decide, Tallied.nil limits⟩
    | false =>
      obtain ⟨n, -, result, conducted, last, hstands, hframe, hreport⟩ :=
        @Client.exists_standsAfter_ended σ α c handlers context state request world hs
      have hhalted := hstands.invariant hinvariant hstart
      rw [show report.journal = last.journal from hreport.journal]
      exact (halted_dependsOn _ _ _ (by decide) hframe hhalted).bounds
  · intro n origin tally limit response run location target hstands hfollowed hlocation hrep htarget
    have htallied := hstands.invariant hinvariant hstart
    have hredirects : limits.redirects ≤ tally.redirects :=
      Nat.le_of_eq (hfollowed.symm.trans htallied.followed)
    exact hstands.result_of_arrive
      (CallM.arrive_beyond_redirects hredirects hlocation hrep htarget)

/-- The response that a call is about to take up. -/
def Phase.response? : Phase σ α → Option HttpResponse
  | .waiting _ _ _ (.ok response) => some response
  | _ => none

theorem Phase.eq_waiting_of_response? {phase : Phase σ α} {response : HttpResponse}
    (h : phase.response? = some response) :
    ∃ origin tally limit, phase = .waiting origin tally limit (.ok response) := by
  cases phase with
  | waiting origin tally limit answer =>
    cases answer with
    | ok response' => exact ⟨origin, tally, limit, Option.some.inj h ▸ rfl⟩
    | error e => cases h
  | _ => cases h

/-- Follows one redirect. -/
def Rehearsal.oneRedirect : Client Rehearsal.Stage :=
  { Rehearsal.client with config := { Rehearsal.config with maxRedirects := 1 } }

open Rehearsal in
theorem call_within_limits_elsewhere :
    let report :=
      rehearse oneRedirect expired unsigned (oneRedirect.start 0) paid [elsewhere, elsewhere]
    report.journal.followed ≤ 1 ∧ failureCode? report.result = some .redirectLimitExceeded := by
  obtain ⟨-, ⟨-, hfollowed, -⟩, hbeyond⟩ := call_within_limits oneRedirect (handlers expired)
    unsigned (oneRedirect.start 0) paid { steps := [elsewhere, elsewhere] }
  refine ⟨hfollowed, ?_⟩
  rcases hstands : (CallM.step (oneRedirect.settingAt (handlers expired) unsigned paid
    { steps := [elsewhere, elsewhere] }))^[5] (.outset, oneRedirect.runAt (oneRedirect.start 0) paid
      { steps := [elsewhere, elsewhere] }) with ⟨phase, run⟩
  have hfacts : phase.response?.bind CallM.location? = some "https://other.example.com/" ∧
      run.journal.followed = 1 ∧ run.request.body.isRepeatable = true ∧
      (run.request.fullUri.toOption.bind
        (Address.resolve? · "https://other.example.com/")).isSome = true := by
    rw [show phase = _ from (congrArg Prod.fst hstands).symm,
      show run = _ from (congrArg Prod.snd hstands).symm]
    decide +kernel
  obtain ⟨hresponse, hone, hrep, htarget⟩ := hfacts
  obtain ⟨response, hresponse, hlocation⟩ := Option.bind_eq_some_iff.mp hresponse
  obtain ⟨origin, tally, limit, rfl⟩ := Phase.eq_waiting_of_response? hresponse
  obtain ⟨target, htarget⟩ := Option.isSome_iff_exists.mp htarget
  have hresult := hbeyond 5 origin tally limit response run _ target ⟨rfl, hstands⟩ hone hlocation
    hrep htarget
  rw [rehearse, hresult]
  rfl

end ServiceCall
