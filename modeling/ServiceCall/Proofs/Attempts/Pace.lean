import Mathlib.Data.List.Induction
import ServiceCall.Proofs.Attempts.Bounds
import ServiceCall.Proofs.Call.Attempt

/-!
The pace of a call. On its way from the admission of a failure to the exchange that tries again, a
call starts an attempt, asks how long to pause and pauses for so long. What a call may do next
depends on how far it has come on this way, and the journal tells that.
-/

namespace ServiceCall

variable {σ α : Type}

/-! ### Who leaves a body as it is -/

/-- A body that can be sent again is not replaced by one that cannot. -/
def HttpRequest.StaysRepeatable (r r' : HttpRequest σ) : Prop :=
  r.body.isRepeatable = true → r'.body.isRepeatable = true

/-- Neither those who signed nor the transport replace a body that can be sent again by one that
cannot. -/
structure SparesBody (c : Client σ) (j : Journal σ) : Prop where
  signers : ∀ signer offset r, .signing signer offset r ∈ j →
    signer.Touches HttpRequest.StaysRepeatable
  transport : c.transport.Touches HttpRequest.StaysRepeatable

theorem SparesBody.of_append {c : Client σ} {j new : Journal σ} (h : SparesBody c (j ++ new)) :
    SparesBody c j where
  signers signer offset r hm := h.signers signer offset r (List.mem_append_left _ hm)
  transport := h.transport

/-! ### Decisions -/

/-- The rule for pauses is told what the condition was asked. What it is told of the body is the
same unless somebody has replaced that. -/
structure Repeats (c : Client σ) (before : Journal σ) (asked told : FailedAttempt σ) : Prop where
  request : told.request = asked.request
  error : told.error = asked.error
  attempts : told.attempts = asked.attempts
  retries : told.retries = asked.retries
  repeatable : SparesBody c before → told.repeatable = asked.repeatable

/-- The attempt that a failure leads to once it is admitted. -/
def FailedAttempt.next (asked : FailedAttempt σ) : Nat × Directive σ :=
  (asked.attempts + 1, .retry asked.error)

/-- The header field for retries tells the pause, after the number of attempts before this one. -/
def HttpRequest.TellsPause (number : Nat) (delay : Duration) (r : HttpRequest σ) : Prop :=
  ∃ (left : String) (value : HeaderValue),
    HeaderValue.ofString? s!"{number - 1}/{delay.millis}/{left}" = some value ∧
    r.headers.get? CallM.retryHeader = some value

/-! ### Paces -/

/-- How far a call has come with a failure that is to be tried again. -/
inductive Pace (σ : Type) where
  /-- There is no such failure, or it has been paused for. -/
  | steady
  | admitted (asked : FailedAttempt σ)
  /-- Its attempt has been started. -/
  | started (asked : FailedAttempt σ)
  /-- The rule for pauses has said how long to pause. -/
  | resting (delay : Duration)
  /-- The pause was shorter than that. -/
  | broken

namespace Pace

def start : Pace σ → Pace σ
  | .admitted asked => .started asked
  | pace => pace

def rest (wait : Duration) (cancelled : Bool) : Pace σ → Pace σ
  | .resting delay => if wait = delay ∧ cancelled = false then .steady else .broken
  | pace => pace

def next (pace : Pace σ) : Event σ → Pace σ
  | .conditionAsked asked true => .admitted asked
  | .attemptStarted .. => pace.start
  | .backoffAsked _ delay => .resting delay
  | .paused wait cancelled => pace.rest wait cancelled
  | _ => pace

/-- An attempt may be started: to try again if and only if a failure has been admitted. -/
def Starts (pace : Pace σ) (number : Nat) : Directive σ → Prop
  | .retry failure => ∃ asked, pace = .admitted asked ∧ asked.next = (number, .retry failure)
  | .start => pace = .steady
  | .redirect _ => pace = .steady
  | .authRetry _ => pace = .steady

/-- A call may fail so: it does not leave out a pause, and a pause that was too short is a reason to
fail with what has cut it. -/
def Fails (pace : Pace σ) (failure : Error) : Prop :=
  (∀ delay, pace ≠ .resting delay) ∧
    (pace = .broken → failure.code = .deadlineExceeded ∨ failure.code = .interrupted)

/-- The failure has been admitted, and these attempts have been started since. -/
inductive Owes (asked : FailedAttempt σ) : Pace σ → List (Nat × Directive σ) → Prop where
  | admitted : Owes asked (.admitted asked) []
  | started : Owes asked (.started asked) [asked.next]

theorem Owes.attempts {asked : FailedAttempt σ} {pace : Pace σ}
    {attempts : List (Nat × Directive σ)} (h : pace.Owes asked attempts) :
    attempts = [] ∨ attempts = [asked.next] := by
  cases h with
  | admitted => exact .inl rfl
  | started => exact .inr rfl

end Pace

/-- The events that have to do with the pace of a call. -/
def paceKinds : List EventKind :=
  [.conditionAsked, .attemptStarted, .backoffAsked, .paused, .signing, .dispatched]

theorem Pace.next_of_kind (pace : Pace σ) {e : Event σ} (h : e.kind ∉ paceKinds) :
    pace.next e = pace := by
  cases e <;> first | rfl | exact absurd (by simp [Event.kind, paceKinds]) h

namespace Journal

variable {j new before lead since : Journal σ} {asked told : FailedAttempt σ}
  {attempts : List (Nat × Directive σ)} {e : Event σ}

def pace (j : Journal σ) : Pace σ := j.foldl Pace.next .steady

/-- The delay that the rule for pauses said last, and zero before it was asked. -/
def lastDelay (j : Journal σ) : Duration :=
  j.foldl (fun last e => match e with
    | .backoffAsked _ delay => delay
    | _ => last) .zero

/-- The attempts that were started. -/
def starts (j : Journal σ) : List (Nat × Directive σ) :=
  j.filterMap fun
    | .attemptStarted number directive => some (number, directive)
    | _ => none

theorem pace_concat (j : Journal σ) (e : Event σ) : (j ++ [e]).pace = j.pace.next e :=
  List.foldl_concat ..

theorem lastDelay_append (h : ∀ e ∈ new, e.kind ≠ .backoffAsked) :
    (j ++ new).lastDelay = j.lastDelay := by
  induction new generalizing j with
  | nil => rw [List.append_nil]
  | cons e new ih =>
    have hfirst : (j ++ [e]).lastDelay = j.lastDelay := by
      unfold lastDelay
      rw [List.foldl_concat]
      cases e <;> first | rfl | exact absurd rfl (h _ (.head _))
    rw [List.append_cons, ih fun e he => h e (.tail _ he), hfirst]

theorem starts_append (j new : Journal σ) : (j ++ new).starts = j.starts ++ new.starts :=
  List.filterMap_append

/-! ### The law -/

/-- A pause is as long as the rule said. If the call has no longer time than that, it is as long as
the time that is left by the reading of the clock just before. -/
inductive Plans (b : CallBudget) (before : Journal σ) (delay : Duration) : Duration → Prop where
  | whole : Plans b before delay delay
  | rest {now : Nat} {left : Duration} (read : before.getLast? = some (.clockRead now))
    (remaining : b.remaining? now = some left) (short : left ≤ delay) : Plans b before delay left

/-- What is in order at which pace. -/
def KeepsPace (s : CallSetting σ α) (before : Journal σ) : Event σ → Prop
  | .conditionAsked asked _ => before.pace = .steady ∧ asked.attempts = before.started ∧
      asked.repeatable = true
  | .attemptStarted number directive => number = before.started + 1 ∧
      before.pace.Starts number directive
  | .backoffAsked told _ => ∃ asked, before.pace = .started asked ∧
      Repeats s.client before asked told
  | .paused wait _ => ∃ delay, before.pace = .resting delay ∧ before.Plans s.budget delay wait
  | .signing _ _ r => before.pace = .steady ∧ r.TellsPause before.started before.lastDelay
  | .dispatched r _ _ => before.pace = .steady ∧
      before.Sends (HttpRequest.TellsPause before.started before.lastDelay) r
  | _ => True

variable {s : CallSetting σ α}

/-- These attempts are started, and otherwise nothing happens that has to do with the pace. -/
structure Pursues (attempts : List (Nat × Directive σ)) (lead : Journal σ) : Prop where
  starts : lead.starts = attempts
  quiet : ∀ e ∈ lead, e.kind = .attemptStarted ∨ e.kind ∉ paceKinds

theorem pursues_nil : Pursues [] ([] : Journal σ) := ⟨rfl, by simp⟩

theorem Pursues.concat (h : lead.Pursues attempts)
    (hquiet : e.kind = .attemptStarted ∨ e.kind ∉ paceKinds) :
    (lead ++ [e]).Pursues (attempts ++ Journal.starts [e]) := by
  refine ⟨by rw [starts_append, h.starts], fun e' he => ?_⟩
  rcases List.mem_append.mp he with he | he
  · exact h.quiet e' he
  · rwa [List.mem_singleton.mp he]

theorem starts_of_kind (h : e.kind ∉ paceKinds) : starts [e] = [] := by
  cases e <;> first | rfl | exact absurd (by simp [Event.kind, paceKinds]) h

/-- As long as a failure is owed a pause, its attempt is started or the rule for pauses is asked
about it, and nothing else. -/
theorem KeepsPace.of_owes (howes : before.pace.Owes asked attempts)
    (hlaw : before.KeepsPace s e) :
    (∃ told delay, e = .backoffAsked told delay ∧ attempts = [asked.next] ∧
      Repeats s.client before asked told) ∨
    (e.kind = .attemptStarted ∨ e.kind ∉ paceKinds) ∧
      (before ++ [e]).pace.Owes asked (attempts ++ Journal.starts [e]) := by
  have hsteady : before.pace ≠ .steady := fun heq => by
    rw [heq] at howes
    cases howes
  rw [pace_concat]
  by_cases hquiet : e.kind ∉ paceKinds
  · rw [Pace.next_of_kind _ hquiet, starts_of_kind hquiet, List.append_nil]
    exact .inr ⟨.inr hquiet, howes⟩
  · cases e with
    | attemptStarted number directive =>
      obtain ⟨-, hstarts⟩ := hlaw
      cases directive with
      | retry failure =>
        obtain ⟨asked', hpace, hnext⟩ := hstarts
        rw [hpace] at howes ⊢
        cases howes
        have hattempt : starts [Event.attemptStarted number (.retry failure)] = [asked.next] := by
          rw [hnext]
          rfl
        rw [hattempt]
        exact .inr ⟨.inl rfl, .started⟩
      | _ => exact absurd hstarts hsteady
    | backoffAsked told delay =>
      obtain ⟨asked', hpace, hrepeats⟩ := hlaw
      rw [hpace] at howes
      cases howes
      exact .inl ⟨told, delay, rfl, rfl, hrepeats⟩
    | paused wait cancelled =>
      obtain ⟨delay, hpace, -⟩ := hlaw
      rw [hpace] at howes
      cases howes
    | conditionAsked asked' admitted => exact absurd hlaw.1 hsteady
    | signing signer offset r => exact absurd hlaw.1 hsteady
    | dispatched r limit inFlight => exact absurd hlaw.1 hsteady
    | _ => exact absurd (by simp [Event.kind, paceKinds]) hquiet

/-- Once the rule for pauses has been asked, nothing happens before the pause, or after one that was
too short. -/
theorem KeepsPace.of_stalled
    (hpace : (∃ delay, before.pace = .resting delay) ∨ before.pace = .broken)
    (hlaw : before.KeepsPace s e) :
    e.kind ∉ paceKinds ∨ ∃ wait cancelled delay, e = .paused wait cancelled ∧
      before.pace = .resting delay ∧ before.Plans s.budget delay wait := by
  have hsteady : before.pace ≠ .steady := fun h => by simp [h] at hpace
  cases e with
  | paused wait cancelled =>
    obtain ⟨delay, hresting, hplans⟩ := hlaw
    exact .inr ⟨wait, cancelled, delay, rfl, hresting, hplans⟩
  | attemptStarted number directive =>
    obtain ⟨-, hstarts⟩ := hlaw
    cases directive with
    | retry failure =>
      obtain ⟨asked, hadmitted, -⟩ := hstarts
      simp [hadmitted] at hpace
    | _ => exact absurd hstarts hsteady
  | backoffAsked told delay =>
    obtain ⟨asked, hstarted, -⟩ := hlaw
    simp [hstarted] at hpace
  | conditionAsked asked admitted => exact absurd hlaw.1 hsteady
  | signing signer offset r => exact absurd hlaw.1 hsteady
  | dispatched r limit inFlight => exact absurd hlaw.1 hsteady
  | _ => exact .inl (by simp [Event.kind, paceKinds])

/-- What follows the admission of a failure: the rule for pauses is asked about it, or it is still
owed a pause at the end. -/
theorem Obeys.answers (h : (before ++ .conditionAsked asked true :: since).Obeys (KeepsPace s)) :
    (∃ (lead : Journal σ) (told : FailedAttempt σ) (delay : Duration) (rest : Journal σ),
      since = lead ++ .backoffAsked told delay :: rest ∧ lead.Pursues [asked.next] ∧
      Repeats s.client (before ++ .conditionAsked asked true :: lead) asked told) ∨
    ∃ attempts, since.Pursues attempts ∧
      (before ++ .conditionAsked asked true :: since).pace.Owes asked attempts := by
  -- From the end, since the law judges an event by all that came before it.
  induction since using List.reverseRecOn with
  | nil =>
    refine .inr ⟨[], pursues_nil, ?_⟩
    rw [pace_concat]
    exact .admitted
  | append_singleton since e ih =>
    rw [← List.cons_append, ← List.append_assoc] at h ⊢
    rcases ih h.of_append with ⟨lead, told, delay, rest, rfl, hlead⟩ | ⟨attempts, hpursues, howes⟩
    · exact .inl ⟨lead, told, delay, rest ++ [e], by simp, hlead⟩
    · rcases KeepsPace.of_owes howes h.last with ⟨told, delay, rfl, rfl, hrepeats⟩ | ⟨hquiet, howes⟩
      · exact .inl ⟨since, told, delay, [], rfl, hpursues, hrepeats⟩
      · exact .inr ⟨_, hpursues.concat hquiet, howes⟩

/-- What follows the question how long to pause: a pause for so long, or one that is cut short and
after which nothing is tried again. -/
theorem Obeys.rests {delay : Duration}
    (h : (before ++ .backoffAsked told delay :: since).Obeys (KeepsPace s)) :
    ((∀ e ∈ since, e.kind ∉ paceKinds) ∧
      (before ++ .backoffAsked told delay :: since).pace = .resting delay) ∨
    ∃ (lull : Journal σ) (wait : Duration) (cancelled : Bool) (rest : Journal σ),
      since = lull ++ .paused wait cancelled :: rest ∧ (∀ e ∈ lull, e.kind ∉ paceKinds) ∧
      (before ++ .backoffAsked told delay :: lull).Plans s.budget delay wait ∧
      (wait = delay ∧ cancelled = false ∨ (∀ e ∈ rest, e.kind ∉ paceKinds) ∧
        (before ++ .backoffAsked told delay :: since).pace = .broken) := by
  induction since using List.reverseRecOn with
  | nil =>
    refine .inl ⟨by simp, ?_⟩
    rw [pace_concat]
    rfl
  | append_singleton since e ih =>
    rw [← List.cons_append, ← List.append_assoc] at h ⊢
    rcases ih h.of_append with ⟨hlull, hpace⟩ |
      ⟨lull, wait, cancelled, rest, rfl, hlull, hplans, hend⟩
    · rcases KeepsPace.of_stalled (.inl ⟨delay, hpace⟩) h.last with hquiet |
        ⟨wait, cancelled, delay', rfl, hresting, hplans⟩
      · refine .inl ⟨?_, ?_⟩
        · simpa [or_imp, forall_and] using ⟨hlull, hquiet⟩
        · rw [pace_concat, Pace.next_of_kind _ hquiet, hpace]
      · obtain rfl := Pace.resting.inj (hpace.symm.trans hresting)
        refine .inr ⟨since, wait, cancelled, [], rfl, hlull, hplans, ?_⟩
        rw [pace_concat, hpace]
        by_cases hwhole : wait = delay ∧ cancelled = false
        · exact .inl hwhole
        · exact .inr ⟨by simp, if_neg hwhole⟩
    · refine .inr ⟨lull, wait, cancelled, rest ++ [e], by simp, hlull, hplans, ?_⟩
      rcases hend with hwhole | ⟨hrest, hpace⟩
      · exact .inl hwhole
      · have hquiet : e.kind ∉ paceKinds := by
          rcases KeepsPace.of_stalled (.inr hpace) h.last with hquiet | ⟨-, -, _, -, hresting, -⟩
          · exact hquiet
          · simp [hpace] at hresting
        refine .inr ⟨?_, ?_⟩
        · simpa [or_imp, forall_and] using ⟨hrest, hquiet⟩
        · rw [pace_concat, Pace.next_of_kind _ hquiet, hpace]

/-- Only in an attempt that has just been started to try again, the rule for pauses is asked. -/
theorem Obeys.unasked (h : (before ++ since).Obeys (KeepsPace s))
    (hpace : ∀ asked, before.pace ≠ .started asked)
    (hsame : ∀ e ∈ since, e.kind ≠ .attemptStarted) : ∀ e ∈ since, e.kind ≠ .backoffAsked := by
  induction since generalizing before with
  | nil => simp
  | cons e since ih =>
    have hlaw : before.KeepsPace s e := h before e since rfl
    rw [List.append_cons] at h
    have hnext : ∀ asked, (before ++ [e]).pace ≠ .started asked := by
      intro asked
      rw [pace_concat]
      cases e with
      | conditionAsked asked' admitted =>
        cases admitted with
        | true => simp [Pace.next]
        | false => exact hpace asked
      | attemptStarted number directive => exact absurd rfl (hsame _ (.head _))
      | paused wait cancelled =>
        obtain ⟨delay, hresting, -⟩ := hlaw
        rw [hresting, Pace.next, Pace.rest]
        split <;> simp
      | backoffAsked told delay => simp [Pace.next]
      | _ => exact hpace asked
    intro e' he
    cases he with
    | head =>
      cases e with
      | backoffAsked told delay =>
        obtain ⟨asked, hstarted, -⟩ := hlaw
        exact absurd hstarted (hpace asked)
      | _ => simp [Event.kind]
    | tail _ he => exact ih h hnext (fun e hm => hsame e (.tail _ hm)) e' he

end Journal

end ServiceCall
