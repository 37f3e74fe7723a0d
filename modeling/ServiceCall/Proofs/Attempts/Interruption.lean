import ServiceCall.Proofs.Call.Answer

/-!
Interruptions. Once a call has found that its time is up or that it has been cancelled, it sends
nothing any more and ends with a failure that says so, and nothing that it sends may take longer
than the time that is left.
-/

namespace ServiceCall

variable {σ α : Type}

/-! ### Budgets -/

theorem Duration.min_le (a b : Duration) : min a b ≤ a ∧ min a b ≤ b := by
  by_cases h : a ≤ b
  · have hmin : min a b = a := if_pos h
    rw [hmin]
    exact ⟨Nat.le_refl _, h⟩
  · have hmin : min a b = b := if_neg h
    rw [hmin]
    exact ⟨Nat.le_of_lt (Nat.lt_of_not_le h), Nat.le_refl _⟩

namespace CallBudget

variable {b : CallBudget} {now later : Nat}

theorem isOver_eq_false_of_unlimited (h : b.callLimit = none) (now : Nat) :
    b.isOver now = false := by
  rw [isOver, remaining?, h]
  rfl

theorem isOver_iff {limit : Duration} (h : b.callLimit = some limit) :
    b.isOver now = true ↔ limit ≤ b.elapsed now := by
  rw [isOver, remaining?, h]
  simp only [Option.map_some, Option.any_some, decide_eq_true_eq, Duration.minus, Duration.zero,
    Duration.mk.injEq]
  exact Nat.sub_eq_zero_iff_le

/-- The time of a call does not come back. -/
theorem isOver_mono (hle : now ≤ later) (h : b.isOver now = true) : b.isOver later = true := by
  cases hlimit : b.callLimit with
  | none =>
    rw [isOver_eq_false_of_unlimited hlimit] at h
    cases h
  | some limit =>
    have hover : limit.nanos ≤ now - b.startedAt := (isOver_iff hlimit).mp h
    apply (isOver_iff hlimit).mpr
    show limit.nanos ≤ later - b.startedAt
    omega

/-- A pause that begins when the time is up is one until the end of the call. -/
theorem wait_of_isOver (h : b.isOver now = true) (delay : Duration) :
    (b.wait now delay).2 = true := by
  obtain ⟨left, hleft, hzero⟩ := Option.any_eq_true .. |>.mp h
  have hle : left ≤ delay := by
    rw [of_decide_eq_true hzero]
    exact Nat.zero_le _
  rw [wait, hleft]
  simp [hle]

/-- What is left of the time may be used by an exchange, but no more than an attempt may take. -/
theorem exists_exchangeLimit {limit : Duration} (hlimit : b.callLimit = some limit)
    (h : b.isOver now = false) : ∃ length, b.exchangeLimit? now = some (some length) ∧
      length ≤ limit.minus (b.elapsed now) ∧
      ∀ most, b.attemptLimit = some most → length ≤ most := by
  have hleft : ¬limit ≤ b.elapsed now := fun hle => by
    rw [(isOver_iff hlimit).mpr hle] at h
    cases h
  simp only [exchangeLimit?, hlimit, if_neg hleft]
  refine ⟨_, rfl, ?_⟩
  cases hmost : b.attemptLimit with
  | none => exact ⟨Nat.le_refl _, by simp⟩
  | some most =>
    obtain ⟨hmost, hle⟩ := Duration.min_le most (limit.minus (b.elapsed now))
    exact ⟨hle, fun most' heq => Option.some.inj heq ▸ hmost⟩

theorem exchangeLimit?_of_isOver {limit : Duration} (hlimit : b.callLimit = some limit)
    (h : b.isOver now = true) : b.exchangeLimit? now = none := by
  simp only [exchangeLimit?, hlimit, if_pos ((isOver_iff hlimit).mp h)]

end CallBudget

/-! ### Alarms -/

namespace Event

/-- A reading of the clock when the time is up. -/
def isLate (b : CallBudget) : Event σ → Bool
  | .clockRead now => b.isOver now
  | _ => false

/-- Somebody looked and found that the call has been cancelled. -/
def isCancelled : Event σ → Bool
  | .cancelRead cancelled => cancelled
  | .paused _ cancelled => cancelled
  | _ => false

def isAlarm (b : CallBudget) (e : Event σ) : Bool := e.isLate b || e.isCancelled

end Event

namespace Journal

variable {j new : Journal σ} {b : CallBudget}

def readings (j : Journal σ) : List Nat :=
  j.filterMap fun
    | .clockRead now => some now
    | _ => none

/-- Nothing speaks against going on. -/
def Clear (b : CallBudget) (j : Journal σ) : Prop := ∀ e ∈ j, e.isAlarm b = false

/-- Since the last request was sent, somebody has looked and found that the call has not been
cancelled. -/
def Unflagged (j : Journal σ) : Prop :=
  ∃ earlier since, j = earlier ++ .cancelRead false :: since ∧ ∀ e ∈ since, e.kind ≠ .dispatched

/-- An exchange may take so long: not longer than an attempt may take, and not longer than what is
left of the time by the reading of the clock just before. -/
structure Allows (b : CallBudget) (before : Journal σ) (limit : Option Duration) : Prop where
  attempt : ∀ most, b.attemptLimit = some most → ∃ length, limit = some length ∧ length ≤ most
  call : ∀ most, b.callLimit = some most → ∃ earlier now length,
    before = earlier ++ [.clockRead now, .milestone .dispatchStarted] ∧
      limit = some length ∧ length ≤ most.minus (b.elapsed now)

/-- An attempt is started only if there has been no alarm. A request is sent only if there has been
none, somebody has looked at the flag since the last one, and with a limit that allows for the
time that is left. -/
def Heeds (s : CallSetting σ α) (before : Journal σ) : Event σ → Prop
  | .attemptStarted .. => before.Clear s.budget
  | .dispatched _ limit _ => before.Clear s.budget ∧ before.Unflagged ∧ before.Allows s.budget limit
  | _ => True

def heedKinds : List EventKind := [.attemptStarted, .dispatched]

theorem heeds_of_kind {s : CallSetting σ α} (before : Journal σ) (e : Event σ)
    (h : e.kind ∉ heedKinds) : before.Heeds s e := by
  cases e <;> first | trivial | exact absurd (by simp [Event.kind, heedKinds]) h

def alarmKinds : List EventKind := [.clockRead, .cancelRead, .paused]

theorem isAlarm_of_kind {e : Event σ} (b : CallBudget) (h : e.kind ∉ alarmKinds) :
    e.isAlarm b = false := by
  cases e <;> first | rfl | exact absurd (by simp [Event.kind, alarmKinds]) h

theorem Clear.append (h : j.Clear b) (hnew : ∀ e ∈ new, e.isAlarm b = false) :
    (j ++ new).Clear b := by
  intro e he
  rcases List.mem_append.mp he with he | he
  · exact h e he
  · exact hnew e he

theorem Clear.isLate (h : j.Clear b) {e : Event σ} (he : e ∈ j) : e.isLate b = false :=
  (Bool.or_eq_false_iff.mp (h e he)).1

theorem Clear.isCancelled (h : j.Clear b) {e : Event σ} (he : e ∈ j) : e.isCancelled = false :=
  (Bool.or_eq_false_iff.mp (h e he)).2

theorem Unflagged.append (h : j.Unflagged) (hn : ∀ e ∈ new, e.kind ≠ .dispatched) :
    (j ++ new).Unflagged := by
  obtain ⟨earlier, since, rfl, hquiet⟩ := h
  refine ⟨earlier, since ++ new, by simp, fun e he => ?_⟩
  rcases List.mem_append.mp he with he | he
  · exact hquiet e he
  · exact hn e he

end Journal

/-! ### Failures -/

/-- The parts of a request of which a failure tells. -/
def RequestPart.told : List RequestPart :=
  [.method, .endpoint, .path, .parameters, .redirectTarget]

/-- A failure of a call with this journal and this request, which is the right one if there was an
alarm: the time goes before the flag. -/
structure Answers (s : CallSetting σ α) (failure : Error) (j : Journal σ) (r : HttpRequest σ) :
    Prop where
  late : j.readings.Pairwise (· ≤ ·) → (∃ e ∈ j, e.isLate s.budget = true) →
    failure = CallM.deadlineExceeded s r
  cancelled : (∀ e ∈ j, e.isLate s.budget = false) → (∃ e ∈ j, e.isCancelled = true) →
    failure = CallM.interrupted r

namespace Answers

variable {s : CallSetting σ α} {failure : Error} {j : Journal σ} {r : HttpRequest σ}

theorem of_clear (h : j.Clear s.budget) : Answers s failure j r where
  late := by
    rintro - ⟨e, he, hlate⟩
    rw [h.isLate he] at hlate
    cases hlate
  cancelled := by
    rintro - ⟨e, he, hcancelled⟩
    rw [h.isCancelled he] at hcancelled
    cases hcancelled

theorem of_late (h : ∃ e ∈ j, e.isLate s.budget = true) :
    Answers s (CallM.deadlineExceeded s r) j r where
  late := fun _ _ => rfl
  cancelled := by
    obtain ⟨e, he, hlate⟩ := h
    intro hearly
    rw [hearly e he] at hlate
    cases hlate

theorem of_unflagged (h : ∀ e ∈ j, e.isCancelled = false) :
    Answers s (CallM.deadlineExceeded s r) j r where
  late := fun _ _ => rfl
  cancelled := by
    rintro - ⟨e, he, hcancelled⟩
    rw [h e he] at hcancelled
    cases hcancelled

theorem of_early
    (h : j.readings.Pairwise (· ≤ ·) → ∀ e ∈ j, e.isLate s.budget = false) :
    Answers s (CallM.interrupted r) j r where
  late := by
    rintro hsorted ⟨e, he, hlate⟩
    rw [h hsorted e he] at hlate
    cases hlate
  cancelled := fun _ _ => rfl

/-- What is not told of clock or flag does not change the answer. -/
theorem append (h : Answers s failure j r) {new : Journal σ}
    (hnew : ∀ e ∈ new, e.kind ∉ Journal.alarmKinds) : Answers s failure (j ++ new) r := by
  have hreadings : (j ++ new).readings = j.readings := by
    have hnone : new.readings = [] := by
      apply List.filterMap_eq_nil_iff.mpr
      intro e he
      have hkind := hnew e he
      cases e <;> first | rfl | exact absurd (by simp [Event.kind, Journal.alarmKinds]) hkind
    rw [Journal.readings, List.filterMap_append, ← Journal.readings, ← Journal.readings, hnone,
      List.append_nil]
  have halarm : ∀ e ∈ j ++ new, e.isAlarm s.budget = true → e ∈ j := by
    intro e he htrue
    rcases List.mem_append.mp he with he | he
    · exact he
    · rw [Journal.isAlarm_of_kind _ (hnew e he)] at htrue
      cases htrue
  constructor
  · rw [hreadings]
    rintro hsorted ⟨e, he, hlate⟩
    exact h.late hsorted ⟨e, halarm e he (by simp [Event.isAlarm, hlate]), hlate⟩
  · rintro hearly ⟨e, he, hcancelled⟩
    apply h.cancelled fun e he => hearly e (List.mem_append_left _ he)
    exact ⟨e, halarm e he (by simp [Event.isAlarm, hcancelled]), hcancelled⟩

/-- What a failure says of the request does not depend on its body. -/
theorem of_spares {r' : HttpRequest σ} (h : Answers s failure j r)
    (hs : ∀ part ∈ RequestPart.told, part.Spares r r') : Answers s failure j r' := by
  have hmethod : r'.method = r.method := hs .method (by decide)
  have hlogged : r'.loggedUri = r.loggedUri := by
    have hendpoint : r'.endpoint = r.endpoint := hs .endpoint (by decide)
    have hpath : r'.path = r.path := hs .path (by decide)
    have hparameters : r'.parameters = r.parameters := hs .parameters (by decide)
    have htarget : r'.redirectTarget = r.redirectTarget := hs .redirectTarget (by decide)
    simp only [HttpRequest.loggedUri, HttpRequest.fullUri, HttpRequest.address,
      HttpRequest.addressText, HttpRequest.encodedParameters?, hendpoint, hpath, hparameters,
      htarget]
  constructor
  · rw [CallM.deadlineExceeded, hmethod, hlogged]
    exact h.late
  · rw [CallM.interrupted, hmethod, hlogged]
    exact h.cancelled

end Answers

/-! ### Runs -/

/-- There has been no alarm. -/
structure Heedful (s : CallSetting σ α) (run : Run σ) : Prop where
  clear : run.journal.Clear s.budget
  obeys : run.journal.Obeys (Journal.Heeds s)

/-- How a call fails. -/
structure Halts (s : CallSetting σ α) (failure : Error) (run : Run σ) : Prop where
  answers : Answers s failure run.journal run.request
  obeys : run.journal.Obeys (Journal.Heeds s)

def heedEffects : List Effect :=
  [.records .attemptStarted, .records .dispatched, .records .paused, .records .clockRead,
    .records .cancelRead]

/-- What belongs to none of these effects is neither judged nor an alarm. -/
theorem Event.kind_of_quiet {e : Event σ} (h : .records e.kind ∉ heedEffects) :
    e.kind ∉ Journal.heedKinds ∧ e.kind ∉ Journal.alarmKinds := by
  simp_all [heedEffects, Journal.heedKinds, Journal.alarmKinds]

section

variable {s : CallSetting σ α} {failure : Error} {run run' : Run σ} {effects : List Effect}

theorem Heedful.halts (h : Heedful s run) (failure : Error) : Halts s failure run :=
  ⟨.of_clear h.clear, h.obeys⟩

theorem Heedful.append (h : Heedful s run) {new : Journal σ}
    (hn : ∀ e ∈ new, .records e.kind ∉ heedEffects) (hj : run'.journal = run.journal ++ new) :
    Heedful s run' := by
  have hquiet := fun e he => Event.kind_of_quiet (hn e he)
  constructor
  · rw [hj]
    exact h.clear.append fun e he => Journal.isAlarm_of_kind _ (hquiet e he).2
  · rw [hj]
    exact h.obeys.append_of_free fun e he before => Journal.heeds_of_kind before e (hquiet e he).1

theorem heedful_dependsOn : DependsOn heedEffects (Heedful s) := by
  intro effects run run' hn hf h
  obtain ⟨new, hnew, hk⟩ := hf.journal
  exact h.append (fun e he hmem => hn _ hmem (hk e he)) hnew

theorem unflagged_dependsOn :
    DependsOn [.records .dispatched] fun run : Run σ => run.journal.Unflagged := by
  intro effects run run' hn hf h
  obtain ⟨new, hnew, hk⟩ := hf.journal
  rw [hnew]
  exact h.append fun e he hkind => hn _ (.head _) (hkind ▸ hk e he)

/-- After the failure nothing happens that changes what it should be. -/
theorem Halts.frame (h : Halts s failure run) (hf : Frame effects run run')
    (hn : ∀ effect ∈ heedEffects ++ RequestPart.told.map Effect.request, effect ∉ effects) :
    Halts s failure run' := by
  obtain ⟨new, hnew, hk⟩ := hf.journal
  have hquiet := fun e he => Event.kind_of_quiet fun hmem =>
    hn _ (List.mem_append_left _ hmem) (hk e he)
  have hspares : ∀ part ∈ RequestPart.told, part.Spares run.request run'.request :=
    fun part hpart => hf.part (hn _ (List.mem_append_right _ (List.mem_map_of_mem hpart)))
  constructor
  · rw [hnew]
    exact (h.answers.append fun e he => (hquiet e he).2).of_spares hspares
  · rw [hnew]
    exact h.obeys.append_of_free fun e he before => Journal.heeds_of_kind before e (hquiet e he).1

end

namespace CallM

variable {s : CallSetting σ α} {run : Run σ} {effects : List Effect}

/-- What does not look at clock or flag does not find anything. -/
theorem Footprint.heeds {β : Type} {act : CallM σ β} (hact : Footprint effects act)
    (hn : ∀ effect ∈ heedEffects, effect ∉ effects) (h : Heedful s run) :
    Ends act run (fun _ => Heedful s) (Halts s) :=
  (hact.keeps heedful_dependsOn hn h).mono_failed fun e _ h => h.halts e

/-- The clock is read if there is a limit. -/
inductive Clocked (s : CallSetting σ α) (run : Run σ) : Bool → Run σ → Prop where
  | unlimited (limit : s.budget.callLimit = none) : Clocked s run false run
  | read {most : Duration} (limit : s.budget.callLimit = some most) (now : Nat) (world : σ) :
    Clocked s run (s.budget.isOver now)
      { run with world, journal := run.journal ++ [.clockRead now] }

theorem timeIsUp_ends (s : CallSetting σ α) (run : Run σ) {failed : Error → Run σ → Prop} :
    Ends (timeIsUp s) run (fun up run' => Clocked s run up run') failed := by
  unfold timeIsUp
  split
  · next most hlimit =>
    simp only [readClock, ends_bind, ends_perform, ends_record, ends_pure]
    exact .read hlimit _ _
  · next hlimit => exact .unlimited hlimit

/-- If the time is up, that is the reason to fail. -/
theorem timeIsUp_heeds (h : Heedful s run) {failed : Error → Run σ → Prop} :
    Ends (timeIsUp s) run
      (fun up run' => if up then Halts s (deadlineExceeded s run'.request) run'
        else Heedful s run') failed := by
  refine (timeIsUp_ends s run).mono_ok ?_
  rintro up run' hclocked
  cases hclocked with
  | unlimited limit => exact h
  | read limit now world =>
    have hobeys : (run.journal ++ [Event.clockRead now]).Obeys (Journal.Heeds s) :=
      h.obeys.concat trivial
    cases hover : s.budget.isOver now with
    | true =>
      refine ⟨.of_late ⟨.clockRead now, by simp, hover⟩, hobeys⟩
    | false =>
      refine ⟨h.clear.append fun e he => ?_, hobeys⟩
      rw [List.mem_singleton.mp he]
      simp [Event.isAlarm, Event.isLate, Event.isCancelled, hover]

/-- Whoever goes on after the check has found the flag not set. -/
theorem checkInterruption_heeds (h : Heedful s run) :
    Ends (checkInterruption s) run
      (fun _ run' => Heedful s run' ∧ run'.journal.Unflagged) (Halts s) := by
  unfold checkInterruption
  refine (timeIsUp_heeds h).bind fun up clocked h => ?_
  cases up with
  | true => exact h
  | false =>
    have h : Heedful s clocked := h
    simp only [Bool.false_eq_true, if_false, readFlag, ends_bind, ends_pure, ends_perform,
      ends_record]
    cases (s.client.surroundings.isCancelled s.context.cancel clocked.world).1 with
    | true =>
      have hearly : ∀ e ∈ clocked.journal ++ [Event.cancelRead true],
          e.isLate s.budget = false := by
        intro e he
        rcases List.mem_append.mp he with he | he
        · exact h.clear.isLate he
        · rw [List.mem_singleton.mp he]
          rfl
      exact ⟨.of_early fun _ => hearly, h.obeys.concat trivial⟩
    | false =>
      refine ⟨⟨h.clear.append fun e he => ?_, h.obeys.concat trivial⟩, ?_⟩
      · rw [List.mem_singleton.mp he]
        rfl
      · exact ⟨clocked.journal, [], rfl, by simp⟩

/-! ### The pause -/

/-- A pause is planned by the clock if there is a limit. -/
inductive Planned (s : CallSetting σ α) (delay : Duration) (run : Run σ) :
    Duration × Bool → Run σ → Prop where
  | unlimited (limit : s.budget.callLimit = none) : Planned s delay run (delay, false) run
  | read {most : Duration} (limit : s.budget.callLimit = some most) (now : Nat) (world : σ) :
    Planned s delay run (s.budget.wait now delay)
      { run with world, journal := run.journal ++ [.clockRead now] }

theorem planWait_ends (s : CallSetting σ α) (delay : Duration) (run : Run σ)
    {failed : Error → Run σ → Prop} :
    Ends (planWait s delay) run (fun plan run' => Planned s delay run plan run') failed := by
  unfold planWait
  split
  · next most hlimit =>
    simp only [readClock, ends_bind, ends_perform, ends_record, ends_pure]
    exact .read hlimit _ _
  · next hlimit => exact .unlimited hlimit

/-- After a pause the time goes before the flag again, and the flag before the plan. -/
theorem resume_ends {cancelled reachesEnd : Bool} {ok : Unit → Run σ → Prop}
    {failed : Error → Run σ → Prop}
    (h : ∀ up run', Clocked s run up run' →
      if up then failed (deadlineExceeded s run'.request) run'
      else if cancelled then failed (interrupted run'.request) run'
      else if reachesEnd then failed (deadlineExceeded s run'.request) run'
      else ok () run') :
    Ends (resume s cancelled reachesEnd) run ok failed := by
  unfold resume
  refine ends_bind.mpr ((timeIsUp_ends s run).mono (fun up run' hclocked => ?_) fun _ _ h => h)
  have hnext := h up run' hclocked
  cases up with
  | true => exact hnext
  | false =>
    cases cancelled with
    | true => exact hnext
    | false =>
      cases reachesEnd with
      | true => exact hnext
      | false => exact hnext

/-- Readings of the clock before and after a pause: if the time was not up after it, it was not up
before it either. -/
theorem early_of_sorted {j : Journal σ} {before later : Nat} {rest : Event σ}
    (hrest : ∀ now, rest ≠ .clockRead now)
    (hsorted : (j ++ [Event.clockRead before] ++ [rest] ++ [.clockRead later] :
      Journal σ).readings.Pairwise (· ≤ ·))
    (hearly : s.budget.isOver later = false) : s.budget.isOver before = false := by
  have hle : before ≤ later := by
    simp only [Journal.readings, List.append_assoc, List.filterMap_append] at hsorted
    have htail := (List.pairwise_append.mp hsorted).2.1
    cases rest <;> first | simpa using htail | exact absurd rfl (hrest _)
  cases hover : s.budget.isOver before with
  | true => exact absurd (CallBudget.isOver_mono hle hover) (by simp [hearly])
  | false => rfl

/-- Without a limit there is nothing but the flag to end a call after a pause. -/
theorem resume_heeds_unlimited {wait : Duration} {cancelled : Bool} {rested : Run σ}
    (h : Heedful s run) (hlimit : s.budget.callLimit = none)
    (hj : rested.journal = run.journal ++ [.paused wait cancelled]) :
    Ends (resume s cancelled false) rested (fun _ => Heedful s) (Halts s) := by
  have hobeys : rested.journal.Obeys (Journal.Heeds s) := hj ▸ h.obeys.concat trivial
  refine resume_ends fun up run' hclocked => ?_
  cases hclocked with
  | unlimited limit =>
    cases cancelled with
    | true =>
      refine ⟨.of_early fun _ e _ => ?_, hobeys⟩
      cases e <;> first | rfl | exact CallBudget.isOver_eq_false_of_unlimited hlimit _
    | false =>
      refine ⟨?_, hobeys⟩
      rw [hj]
      exact h.clear.append (by simp [Event.isAlarm, Event.isLate, Event.isCancelled])
  | read limit => simp [hlimit] at limit

/-- With a limit the clock has been read before the pause, and is read after it. -/
theorem resume_heeds_limited {before : Nat} {wait : Duration} {cancelled reachesEnd : Bool}
    {rested : Run σ} {most : Duration} (h : Heedful s run) (hlimit : s.budget.callLimit = some most)
    (hplan : s.budget.isOver before = true → reachesEnd = true)
    (hj : rested.journal = run.journal ++ [.clockRead before] ++ [.paused wait cancelled]) :
    Ends (resume s cancelled reachesEnd) rested (fun _ => Heedful s) (Halts s) := by
  have hread : (run.journal ++ [Event.clockRead before]).Obeys (Journal.Heeds s) :=
    h.obeys.concat trivial
  have hobeys : rested.journal.Obeys (Journal.Heeds s) := hj ▸ hread.concat trivial
  refine resume_ends fun up run' hclocked => ?_
  cases hclocked with
  | unlimited limit => simp [hlimit] at limit
  | read limit later world =>
    have hobeys : (rested.journal ++ [Event.clockRead later]).Obeys (Journal.Heeds s) :=
      hobeys.concat trivial
    -- The reading after the pause decides; if it is early, so is the one before, unless the pause
    -- was planned up to the end of the call.
    cases hlater : s.budget.isOver later with
    | true => exact ⟨.of_late ⟨.clockRead later, by simp, hlater⟩, hobeys⟩
    | false =>
      have hmem : ∀ e ∈ rested.journal ++ [Event.clockRead later],
          e ∈ run.journal ∨ e = .clockRead before ∨ e = .paused wait cancelled ∨
            e = .clockRead later := by
        intro e he
        simpa [hj] using he
      have hlate : s.budget.isOver before = false →
          ∀ e ∈ rested.journal ++ [Event.clockRead later], e.isLate s.budget = false := by
        intro hbefore e he
        rcases hmem e he with he | rfl | rfl | rfl
        · exact h.clear.isLate he
        · exact hbefore
        · rfl
        · exact hlater
      have hflag : cancelled = false →
          ∀ e ∈ rested.journal ++ [Event.clockRead later], e.isCancelled = false := by
        intro hcancelled e he
        rcases hmem e he with he | rfl | rfl | rfl
        · exact h.clear.isCancelled he
        · rfl
        · exact hcancelled
        · rfl
      cases cancelled with
      | true =>
        refine ⟨.of_early fun hsorted => hlate ?_, hobeys⟩
        rw [hj] at hsorted
        exact early_of_sorted (by simp) hsorted hlater
      | false =>
        cases reachesEnd with
        | true => exact ⟨.of_unflagged (hflag rfl), hobeys⟩
        | false =>
          have hbefore : s.budget.isOver before = false := by
            cases hover : s.budget.isOver before with
            | true => exact absurd (hplan hover) Bool.false_ne_true
            | false => rfl
          refine ⟨fun e he => ?_, hobeys⟩
          rw [Event.isAlarm, hlate hbefore e he, hflag rfl e he]
          rfl

theorem waitOut_heeds (delay : Duration) (h : Heedful s run) :
    Ends (waitOut s delay) run (fun _ => Heedful s) (Halts s) := by
  unfold waitOut rest
  refine (planWait_ends s delay run).bind ?_
  rintro plan planned hplanned
  rw [ends_bind, ends_perform, ends_bind, ends_record]
  cases hplanned with
  | unlimited limit => exact resume_heeds_unlimited h limit rfl
  | read limit now world =>
    exact resume_heeds_limited h limit (CallBudget.wait_of_isOver · delay) rfl

/-! ### Up to the answer -/

/-- Moreover, somebody has found since the last request was sent that the flag is not set. -/
structure Cleared (s : CallSetting σ α) (run : Run σ) : Prop extends Heedful s run where
  unflagged : run.journal.Unflagged

theorem cleared_dependsOn : DependsOn heedEffects (Cleared s) := fun _ _ _ hn hf h =>
  ⟨heedful_dependsOn _ _ _ hn hf h.toHeedful, unflagged_dependsOn _ _ _
    (fun effect hw => hn effect ((by decide : [.records .dispatched] ⊆ heedEffects) hw)) hf
    h.unflagged⟩

theorem Footprint.clears {β : Type} {act : CallM σ β} (hact : Footprint effects act)
    (hn : ∀ effect ∈ heedEffects, effect ∉ effects) (h : Cleared s run) :
    Ends act run (fun _ => Cleared s) (Halts s) :=
  (hact.keeps cleared_dependsOn hn h).mono_failed fun e _ h => h.halts e

theorem pauseAfter_clears (failure : Error) (number : Nat) (h : Cleared s run) :
    Ends (pauseAfter s failure number) run (fun _ => Cleared s) (Halts s) := by
  refine pauseAfter_ends fun delay world => ?_
  have hasked : Cleared s
      { run with
        world
        lastBackoff := delay
        journal :=
          run.journal ++ [.backoffAsked (failedBefore run.request failure number) delay] } :=
    ⟨h.toHeedful.append (by simp [Event.kind, heedEffects]) rfl,
      h.unflagged.append (by simp [Event.kind])⟩
  refine ((waitOut_heeds delay hasked.toHeedful).and ((waitOut_footprint s delay).keeps
    unflagged_dependsOn (by decide) hasked.unflagged)).mono ?_ fun _ _ h => h.1
  exact fun _ _ h => ⟨h.1, h.2⟩

theorem approach_clears (directive : Directive σ) (number : Nat) (h : Heedful s run) :
    Ends (approach s directive number) run (fun _ => Cleared s) (Halts s) := by
  unfold approach
  refine (checkInterruption_heeds h).bind fun _ _ h => ?_
  refine ((loadCredentials_footprint s).clears (by decide) ⟨h.1, h.2⟩).bind
    fun credentials _ h => ?_
  exact (beginAgain_ends cleared_dependsOn (by decide)
    (fun failure _ _ h => pauseAfter_clears failure number h) h).bind fun _ _ h => h

/-- Nobody gets a limit for an exchange when the time is up. -/
theorem exchangeLimit_clears (h : Cleared s run) :
    Ends (exchangeLimit s) run
      (fun limit run' => Cleared s run' ∧
        (run'.journal ++ [Event.milestone .dispatchStarted]).Allows s.budget limit) (Halts s) := by
  unfold exchangeLimit
  cases hlimit : s.budget.callLimit with
  | none =>
    refine ⟨h, fun most hmost => ⟨most, hmost, Nat.le_refl _⟩, fun most hmost => ?_⟩
    simp [hlimit] at hmost
  | some most =>
    simp only [readClock, ends_bind, ends_perform, ends_record, ends_pure]
    have hobeys : ∀ now, (run.journal ++ [Event.clockRead now]).Obeys (Journal.Heeds s) :=
      fun now => h.obeys.concat trivial
    cases hover : s.budget.isOver (s.client.surroundings.now run.world).1 with
    | true =>
      rw [CallBudget.exchangeLimit?_of_isOver hlimit hover]
      exact ⟨.of_late ⟨.clockRead _, by simp, hover⟩, hobeys _⟩
    | false =>
      obtain ⟨length, hlength, hleft, hmost⟩ := CallBudget.exists_exchangeLimit hlimit hover
      rw [hlength]
      refine ⟨⟨⟨h.clear.append fun e he => ?_, hobeys _⟩,
        h.unflagged.append (by simp [Event.kind])⟩, ?_, ?_⟩
      · rw [List.mem_singleton.mp he]
        simp [Event.isAlarm, Event.isLate, Event.isCancelled, hover]
      · exact fun most' heq => ⟨length, rfl, hmost most' heq⟩
      · intro most' heq
        obtain rfl := Option.some.inj (hlimit.symm.trans heq)
        exact ⟨run.journal, _, length, by simp, rfl, hleft⟩

theorem sendOff_heeds (h : Cleared s run) :
    Ends (sendOff s) run (fun _ => Heedful s) (Halts s) := by
  unfold sendOff
  refine (exchangeLimit_clears h).bind fun limit timed hlimited => ?_
  obtain ⟨h, hallows⟩ := hlimited
  refine (announce_ends .dispatchStarted timed).bind ?_
  rintro _ _ ⟨world, rfl⟩
  have hsending : Cleared s { timed with
      world
      journal := timed.journal ++ [.milestone .dispatchStarted] } :=
    ⟨h.toHeedful.append (by simp [Event.kind, heedEffects]) rfl,
      h.unflagged.append (by simp [Event.kind])⟩
  refine (dispatch_ends s limit _).bind fun answer sent hsent => ?_
  obtain ⟨-, hj, -⟩ := hsent
  constructor
  · rw [hj]
    exact hsending.clear.append (by simp [Event.isAlarm, Event.isLate, Event.isCancelled])
  · rw [hj]
    exact hsending.obeys.concat ⟨hsending.clear, hsending.unflagged, hallows⟩

theorem depart_heeds (o : Origin) (tally : Tally) (directive : Directive σ) (h : Heedful s run) :
    Ends (depart s o tally directive) run (fun _ => Heedful s) (Halts s) := by
  have hsend : ∀ run, Heedful s run →
      Ends (sendOut s directive (tally.attempts + 1)) run (fun _ => Heedful s) (Halts s) := by
    intro run h
    unfold sendOut
    refine (approach_clears directive _ h).bind fun credentials _ h => ?_
    refine ((stampRetryHeader_footprint _).clears (by decide) h).bind fun _ _ h => ?_
    refine ((bindSigner_footprint s directive).clears (by decide) h).bind fun signer _ h => ?_
    refine ((signWith_footprint signer credentials).clears (by decide) h).bind fun _ _ h => ?_
    exact sendOff_heeds h
  unfold depart
  refine (checkInterruption_heeds h).bind fun _ checked h => ?_
  refine (startAttempt_ends s directive _ checked).bind fun _ started hf => ?_
  have hopened : Heedful s { checked with
      journal := checked.journal ++ [.attemptStarted (tally.attempts + 1) directive] } := by
    constructor
    · exact h.1.clear.append (by simp [Event.isAlarm, Event.isLate, Event.isCancelled])
    · exact h.1.obeys.concat h.1.clear
  have hstarted : Heedful s started := heedful_dependsOn _ _ _ (by decide) hf hopened
  refine ((prepare_footprint o directive).heeds (by decide) hstarted).bind fun _ _ h => ?_
  exact ends_onFailure.mpr ((hsend _ h).mono_failed fun _ _ h => ⟨h.answers, h.obeys⟩)

/-! ### After the answer -/

/-- A response is no reason to look at the clock. -/
theorem heeds_responseRule {authAllowed : Bool} (s : CallSetting σ α) :
    ResponseRule s heedEffects (Heedful s)
      (fun (_ : Outcome σ α authAllowed) => Heedful s) (Halts s) where
  dependsOn := heedful_dependsOn
  apart := by decide
  handleResult := fun status reason r _ h => handleResult_ends heedful_dependsOn (by decide)
    (fun status handled r _ h => (complete_footprint s status handled r).heeds (by decide) h)
    (fun _ _ h => h) (fun e _ h => h.halts e) h status reason r
  onRedirect := fun _ _ h =>
    onRedirect_ends (fun _ => h) (fun _ _ _ => h) fun _ => h.halts _
  correctClock := fun headers e _ h => (correctClock_footprint s headers e).heeds (by decide) h
  askAuthRetry := by
    intro e run h
    refine askAuthRetry_ends h fun rule answer allowed _ _ _ => ?_
    have hasked : Heedful s
        { run with world := answer.2, journal := run.journal ++ [.authAsked e answer.1.isSome] } :=
      h.append (by simp [Event.kind, heedEffects]) rfl
    rw [ends_bind, ends_record]
    split
    · exact hasked
    · exact hasked
  retryable := fun _ _ h => h
  fatal := fun e _ _ h => h.halts e

theorem arrive_heeds (o : Origin) (tally : Tally) (limit : Option Duration)
    (answer : Except TransportError HttpResponse) (h : Heedful s run) :
    Ends (arrive s o tally limit answer) run (fun _ => Heedful s) (Halts s) := by
  refine arrive_ends_of_interpret heedful_dependsOn (by decide) (fun e _ h => h.halts e)
    (fun _ _ h => ⟨h.answers, h.obeys⟩) ?_
  cases answer with
  | ok response => exact (heeds_responseRule s).onResponse h response
  | error e =>
    refine (timeIsUp_heeds h).bind fun up _ h => ?_
    cases up with
    | true => exact h
    | false => exact h

end CallM

/-! ### Every step -/

def Phase.Heeds (s : CallSetting σ α) : Phase σ α → Run σ → Prop
  | .outset, run => Heedful s run
  | .begun, run => Heedful s run
  | .ready .., run => Heedful s run
  | .waiting .., run => Heedful s run
  | .failing e, run => Halts s e run
  | .ended (.ok _), run => Heedful s run
  | .ended (.error e), run => Halts s e run

theorem CallM.heeds_phaseInvariant (s : CallSetting σ α) :
    PhaseInvariant s (Phase.Heeds s) where
  launch := fun _ h => (launch_footprint s).heeds (by decide) h
  markOrigin := fun _ h => markOrigin_footprint.heeds (by decide) h
  depart := fun o tally directive _ h => depart_heeds o tally directive h
  arrive := by
    intro o tally limit answer run h
    refine (arrive_heeds o tally limit answer h).mono_ok fun t _ h => ?_
    cases t with
    | finished response => exact h
    | again tally' directive' less => exact h
  giveUp := fun e run h => h.frame (giveUp_frame s run) (by decide)

end ServiceCall
