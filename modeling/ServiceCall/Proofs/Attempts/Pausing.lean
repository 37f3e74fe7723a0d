import ServiceCall.Proofs.Attempts.Memory
import ServiceCall.Proofs.Attempts.Redirection

/-!
Pauses. The rule for pauses is asked about what the condition has admitted and about nothing else,
in the attempt that tries again, and the call pauses for as long as the rule says unless its time
or its flag is in the way. Attempts for another reason do not pause.
-/

namespace ServiceCall

variable {σ α : Type}

/-! ### At which pace a call is -/

/-- The call is at this pace, has started so many attempts, and has kept the law. -/
structure Paced (s : CallSetting σ α) (number : Nat) (pace : Pace σ) (run : Run σ) : Prop where
  pace : run.journal.pace = pace
  started : run.journal.started = number
  obeys : run.journal.Obeys (Journal.KeepsPace s)

/-- How a call fails. -/
structure Stops (s : CallSetting σ α) (failure : Error) (run : Run σ) : Prop where
  fails : run.journal.pace.Fails failure
  obeys : run.journal.Obeys (Journal.KeepsPace s)

/-- What the condition was asked about a failure after so many attempts. -/
structure AskedAbout (o : Origin) (number : Nat) (subject : ServiceRequest σ) (failure : Error)
    (asked : FailedAttempt σ) : Prop where
  request : asked.request = subject
  error : asked.error = failure
  attempts : asked.attempts = number
  retries : asked.retries = number - 1
  repeatable : asked.repeatable = true
  kept : o.repeatable = true

/-- At which pace a call goes on after so many attempts. -/
inductive GoesOn (o : Origin) (number : Nat) (subject : ServiceRequest σ) :
    Directive σ → Pace σ → Prop where
  | start : GoesOn o number subject .start .steady
  | retry {failure : Error} {asked : FailedAttempt σ}
    (about : AskedAbout o number subject failure asked) :
    GoesOn o number subject (.retry failure) (.admitted asked)
  | redirect (target : Uri) : GoesOn o number subject (.redirect target) .steady
  | authRetry (parameters : AuthRetry σ) : GoesOn o number subject (.authRetry parameters) .steady

/-- A turn that has not paused yet, before and after its attempt is started. -/
structure Unrested (s : CallSetting σ α) (o : Origin) (number : Nat) (directive : Directive σ)
    (pace : Pace σ) (begun : Bool) (run : Run σ) : Prop where
  paced : Paced s (number + begun.toNat) (cond begun pace.start pace) run
  goesOn : GoesOn o number run.request.subject directive pace
  faithful : Faithful s.client o run

section

variable {s : CallSetting σ α} {o : Origin} {n : Nat} {pace : Pace σ} {run run' : Run σ}
  {directive : Directive σ} {begun : Bool} {failure : Error} {e : Event σ}

theorem GoesOn.starts {subject : ServiceRequest σ} (h : GoesOn o n subject directive pace) :
    pace.Starts (n + 1) directive := by
  cases h with
  | retry about =>
    refine ⟨_, rfl, ?_⟩
    rw [FailedAttempt.next, about.attempts, about.error]
  | _ => rfl

theorem Paced.concat (h : Paced s n pace run) (hlaw : run.journal.KeepsPace s e)
    (hj : run'.journal = run.journal ++ [e]) :
    Paced s (n + e.isStart.toNat) (pace.next e) run' := by
  constructor
  · rw [hj, Journal.pace_concat, h.pace]
  · rw [hj, Journal.started, Journal.countP_concat]
    exact congrArg (· + _) h.started
  · rw [hj]
    exact h.obeys.concat hlaw

theorem Paced.asked {asked : FailedAttempt σ} {admitted : Bool} (h : Paced s n .steady run)
    (tells : CallM.Tells o failure n asked) (kept : o.repeatable = true)
    (hj : run'.journal = run.journal ++ [.conditionAsked asked admitted]) :
    Paced s n (if admitted then .admitted asked else .steady) run' := by
  have hasked : run.journal.KeepsPace s (.conditionAsked asked admitted) :=
    ⟨h.pace, tells.attempts.trans h.started.symm, tells.repeatable.trans kept⟩
  cases admitted with
  | true => exact h.concat hasked hj
  | false => exact h.concat hasked hj

theorem Paced.stops (h : Paced s n pace run) (hfails : pace.Fails failure) :
    Stops s failure run :=
  ⟨h.pace ▸ hfails, h.obeys⟩

theorem GoesOn.fails {subject : ServiceRequest σ} (h : GoesOn o n subject directive pace)
    (begun : Bool) (failure : Error) : (cond begun pace.start pace).Fails failure := by
  cases h <;> cases begun <;> simp [Pace.Fails, Pace.start]

theorem Unrested.stops (h : Unrested s o n directive pace begun run) (failure : Error) :
    Stops s failure run :=
  h.paced.stops (h.goesOn.fails begun failure)

end

namespace CallM

variable {s : CallSetting σ α} {o : Origin} {tally : Tally} {directive : Directive σ} {run : Run σ}
  {effects : List Effect} {pace : Pace σ} {begun : Bool} {n : Nat}

/-- Nothing is to be paused for, and this is what the rule for pauses has said last. -/
structure Delayed (s : CallSetting σ α) (n : Nat) (delay : Duration) (run : Run σ) : Prop
    extends Paced s n .steady run where
  lastDelay : run.journal.lastDelay = delay

theorem Delayed.stops {delay : Duration} (h : Delayed s n delay run) (failure : Error) :
    Stops s failure run :=
  h.toPaced.stops (by simp [Pace.Fails])

end CallM

def Phase.Faithful (c : Client σ) : Phase σ α → Run σ → Prop
  | .outset, run => run.lastBackoff = run.journal.lastDelay
  | .begun, run => run.lastBackoff = run.journal.lastDelay
  | .ready o _ _, run => ServiceCall.Faithful c o run
  | .waiting o _ _ _, run => ServiceCall.Faithful c o run
  | .failing _, _ => True
  | .ended _, _ => True

namespace CallM

variable {s : CallSetting σ α} {o : Origin} {tally : Tally} {run : Run σ} {n : Nat}

end CallM

/-! ### A whole call -/

namespace Journal

section

variable {s : CallSetting σ α} {result : Except Error (Response α)} {before after j : Journal σ}
  {asked told : FailedAttempt σ} {delay : Duration}

end

end Journal

namespace Rehearsal

/-- The transport leaves a stream in the place of the payload that it has sent. -/
def careless : Client Stage := { client with transport := { transport with
  send := fun r limit => do
    let (answer, r) ← transport.send r limit
    return (answer, { r with body := .stream (.ofBytes (Bytes.ofString "other")) }) } }

end Rehearsal

/-- What those who are asked about a failure are told of the body. -/
def Event.repeatable? : Event σ → Option Bool
  | .conditionAsked asked _ => some asked.repeatable
  | .backoffAsked told _ => some told.repeatable
  | _ => none

open Rehearsal in
/-- If the transport replaces the body, the rule for pauses is told something else of it than the
condition was. -/
theorem repeatability_told_anew :
    (rehearse careless expired unsigned (careless.start 0) paid
      [.timeout, .answering .ok {}]).journal.filterMap Event.repeatable? = [true, false] := by
  simp only [Rehearsal.rehearse, Client.call, CallM.call, CallM.conduct,
    CallM.attempts_eq_turnsIn]
  decide +kernel

end ServiceCall
