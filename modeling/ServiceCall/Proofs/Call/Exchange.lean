import ServiceCall.Proofs.Call.Course

/-!
Invariants of an exchange. An invariant that depends on a few parts of a run only has to be shown
of the actions that change those parts; all other actions keep it by their footprints.
-/

namespace ServiceCall

variable {σ α : Type}

/-- The invariant holds of two runs alike unless they differ by a watched effect. -/
def DependsOn (watched : List Effect) (I : Run σ → Prop) : Prop :=
  ∀ effects run run', (∀ effect ∈ watched, effect ∉ effects) → Frame effects run run' →
    I run → I run'

theorem DependsOn.and {watched watched' : List Effect} {I J : Run σ → Prop}
    (h : DependsOn watched I) (h' : DependsOn watched' J) :
    DependsOn (watched ++ watched') fun run => I run ∧ J run := by
  rintro effects run run' hn hf ⟨hI, hJ⟩
  exact ⟨h _ _ _ (fun effect hw => hn effect (List.mem_append_left _ hw)) hf hI,
    h' _ _ _ (fun effect hw => hn effect (List.mem_append_right _ hw)) hf hJ⟩

/-- The rule for authentication retries gave this answer once. -/
def Granted (s : CallSetting σ α) (parameters : AuthRetry σ) : Prop :=
  ∃ rule r e world, s.context.authRetry = some rule ∧ (rule r e world).1 = some parameters

/-- What holds after an attempt: `done` after a success, `I` after anything else. -/
def Outcome.Leaves {authAllowed : Bool} (s : CallSetting σ α) (done : Response α → Run σ → Prop)
    (I : Run σ → Prop) : Outcome σ α authAllowed → Run σ → Prop
  | .success response, run => done response run
  | .authRetry parameters _, run => Granted s parameters ∧ I run
  | .redirect _, run => I run
  | .retryable _, run => I run

/-- A directive after an attempt. One to repeat the authentication comes from the rule for that. -/
def Directive.Follows (s : CallSetting σ α) : Directive σ → Prop
  | .authRetry parameters => Granted s parameters
  | .start => False
  | .retry _ => True
  | .redirect _ => True

/-- What holds after a turn: `done` if it has finished the call, `I` if there is another one. -/
def Turn.Leaves {l : CallLimits} {t : Tally} (s : CallSetting σ α)
    (done : Response α → Run σ → Prop) (I : Run σ → Prop) : Turn σ α l t → Run σ → Prop
  | .finished response, run => done response run
  | .again _ directive _, run => directive.Follows s ∧ I run

/-- What the call does with an answer, apart from success and from the correction of the clock. -/
def answerEffects : List Effect :=
  [.metrics, .clientMetrics, .records .milestone, .records .answered, .records .hook,
    .records .handled, .records .authAsked, .records .clockRead, .fails .deadlineExceeded,
    .fails .invalidUri]

/-- `I` withstands whatever answer comes, and turns into `done` by a success. -/
structure AnswerInvariant (s : CallSetting σ α) (watched : List Effect) (I : Run σ → Prop)
    (done : Response α → Run σ → Prop) : Prop where
  dependsOn : DependsOn watched I
  apart : ∀ effect ∈ watched, effect ∉ answerEffects
  complete : ∀ status handled r run, I run →
    CallM.Ends (CallM.complete s status handled r) run done fun _ => I
  correctClock : ∀ headers e run, I run →
    CallM.Ends (CallM.correctClock s headers e) run (fun _ => I) fun _ => I

namespace CallM

variable {s : CallSetting σ α} {watched effects : List Effect} {I : Run σ → Prop}
  {done : Response α → Run σ → Prop} {authAllowed : Bool} {run : Run σ}

/-- What the action does not touch still holds, and a failure is one of its own. -/
theorem Footprint.keepsIn {β : Type} {act : CallM σ β} (hact : Footprint effects act)
    (hI : DependsOn watched I) (hn : ∀ effect ∈ watched, effect ∉ effects) (h : I run) :
    Ends act run (fun _ => I) fun e run' => .fails e.code ∈ effects ∧ I run' :=
  (hact.ends run).mono (fun _ _ hf => hI _ _ _ hn hf h)
    fun _ _ hf => ⟨hf.2, hI _ _ _ hn hf.1 h⟩

theorem Footprint.keeps {β : Type} {act : CallM σ β} (hact : Footprint effects act)
    (hI : DependsOn watched I) (hn : ∀ effect ∈ watched, effect ∉ effects) (h : I run) :
    Ends act run (fun _ => I) fun _ => I :=
  (hact.keepsIn hI hn h).mono_failed fun _ _ h => h.2

end CallM

/-! ### Answers -/

/-- What is made of a response before it is looked at more closely. -/
def quietResponseEffects : List Effect :=
  [.metrics, .clientMetrics, .records .milestone, .records .answered, .records .hook]

namespace CallM

/-- What an attempt makes of the answer of the transport. -/
def interpret {authAllowed : Bool} (s : CallSetting σ α) (limit : Option Duration) :
    Except TransportError HttpResponse → CallM σ (Outcome σ α authAllowed)
  | .ok response => onResponse s response
  | .error e => onNoResponse s e limit

end CallM

/-- From `I`, whatever the response is, an attempt comes to an outcome with `post`, or it fails for
good with `failed`. This is to be shown of the few parts that depend on what the response is. -/
structure ResponseRule {authAllowed : Bool} (s : CallSetting σ α) (watched : List Effect)
    (I : Run σ → Prop) (post : Outcome σ α authAllowed → Run σ → Prop)
    (failed : Error → Run σ → Prop) : Prop where
  dependsOn : DependsOn watched I
  apart : ∀ effect ∈ watched, effect ∉ quietResponseEffects
  handleResult : ∀ status reason r run, I run →
    CallM.Ends (CallM.handleResult s status reason r) run post failed
  onRedirect : ∀ location run, I run → CallM.Ends (CallM.onRedirect location) run post failed
  correctClock : ∀ headers e run, I run →
    CallM.Ends (CallM.correctClock s headers e) run (fun _ => I) failed
  askAuthRetry : ∀ e run, I run → CallM.Ends (CallM.askAuthRetry s e) run post failed
  retryable : ∀ e run, I run → post (.retryable e) run
  fatal : ∀ e run, e.isIo = false → I run → failed e run

/-- Without a response the clock is read as well. -/
structure AnswerRule {authAllowed : Bool} (s : CallSetting σ α) (watched : List Effect)
    (I : Run σ → Prop) (post : Outcome σ α authAllowed → Run σ → Prop)
    (failed : Error → Run σ → Prop) : Prop extends ResponseRule s watched I post failed where
  clock : .records .clockRead ∉ watched := by decide

namespace ResponseRule

open CallM

variable {authAllowed : Bool} {s : CallSetting σ α} {watched effects : List Effect}
  {I : Run σ → Prop} {post : Outcome σ α authAllowed → Run σ → Prop}
  {failed : Error → Run σ → Prop} {run : Run σ}

/-- A part that does nothing but quiet things cannot fail either. -/
theorem keeps {β : Type} {act : CallM σ β} (hR : ResponseRule s watched I post failed)
    (hact : Footprint effects act) (hs : effects ⊆ quietResponseEffects) (h : I run) :
    Ends act run (fun _ => I) failed := by
  refine (hact.keepsIn hR.dependsOn (fun effect hw hm => hR.apart effect hw (hs hm)) h).mono_failed
      fun e _ h => absurd (hs h.1) ?_
  simp [quietResponseEffects]

variable (hR : ResponseRule s watched I post failed)

include hR

theorem onSuccess (h : I run) (r : HttpResponse) : Ends (onSuccess s r) run post failed := by
  have hhandle : ∀ (r : HttpResponse) (run : Run σ), I run →
      Ends (do CallM.handleResult s r.status r.reason (← beforeUnmarshal s r) :
        CallM σ (Outcome σ α authAllowed)) run post failed := by
    intro r run h
    exact (hR.keeps (beforeUnmarshal_footprint s r) (by decide) h).bind fun _ _ h =>
      hR.handleResult _ _ _ _ h
  unfold CallM.onSuccess
  dsimp only
  split
  · exact hR.retryable _ _ h
  · refine (hR.keeps (announce_footprint _) (by decide) h).bind fun _ _ h => ?_
    split
    · exact (hR.keeps (announce_footprint _) (by decide) h).bind fun _ _ h => hhandle _ _ h
    · exact hhandle _ _ h

theorem onFailureResponse (h : I run) (r : HttpResponse) :
    Ends (onFailureResponse s r) run post failed := by
  unfold CallM.onFailureResponse
  refine (hR.keeps (readFailure_footprint s r) (by decide) h).bind fun answer _ h => ?_
  split
  · split
    · exact hR.retryable _ _ h
    · next hio => exact hR.fatal _ _ (by simpa using hio) h
  · refine (hR.keeps (countThrottle_footprint s _) (by decide) h).bind fun _ _ h => ?_
    exact (hR.correctClock _ _ _ h).bind fun _ _ h => hR.askAuthRetry _ _ h

theorem onResponse (h : I run) (r : HttpResponse) : Ends (onResponse s r) run post failed := by
  have hrecord : Footprint [.records .answered] (record (.answered r.status) : CallM σ Unit) :=
    .record .answered rfl (by decide)
  have hcount : Footprint [.metrics]
      (count fun m => { m with status := some r.status.code } : CallM σ Unit) :=
    .count _ (by decide)
  unfold CallM.onResponse
  refine (hR.keeps (announce_footprint _) (by decide) h).bind fun _ _ h => ?_
  refine (hR.keeps hrecord (by decide) h).bind fun _ _ h => ?_
  refine (hR.keeps hcount (by decide) h).bind fun _ _ h => ?_
  split
  · exact hR.onSuccess h r
  · split
    · exact hR.onRedirect _ _ h
    · exact hR.onFailureResponse h r

end ResponseRule

namespace AnswerRule

open CallM

variable {authAllowed : Bool} {s : CallSetting σ α} {watched : List Effect} {I : Run σ → Prop}
  {post : Outcome σ α authAllowed → Run σ → Prop} {failed : Error → Run σ → Prop} {run : Run σ}
  (hR : AnswerRule s watched I post failed)

include hR

theorem onNoResponse (h : I run) (e : TransportError) (limit : Option Duration) :
    Ends (onNoResponse s e limit) run post failed := by
  have hread : Ends (timeIsUp s) run (fun _ => I) failed := by
    refine ((timeIsUp_footprint s).keepsIn hR.dependsOn (fun effect hw hm => ?_) h).mono_failed
        fun e _ h => absurd h.1 (by simp)
    exact hR.clock (List.mem_singleton.mp hm ▸ hw)
  unfold CallM.onNoResponse
  refine hread.bind fun up _ h => ?_
  dsimp only
  split
  · exact hR.fatal _ _ rfl h
  · exact hR.retryable _ _ h

theorem interpret (h : I run) (limit : Option Duration)
    (answer : Except TransportError HttpResponse) :
    Ends (interpret s limit answer) run post failed := by
  cases answer with
  | ok response => exact hR.onResponse h response
  | error e => exact hR.onNoResponse h e limit

end AnswerRule

/-! ### Invariants -/

namespace CallM

variable {s : CallSetting σ α} {watched : List Effect} {I : Run σ → Prop}
  {done : Response α → Run σ → Prop} {authAllowed : Bool} {run : Run σ}

/-- A result is as good as its completion. -/
theorem handleResult_ends {post : Outcome σ α authAllowed → Run σ → Prop}
    {failed : Error → Run σ → Prop} (hI : DependsOn watched I)
    (hn : ∀ effect ∈ watched, effect ∉ [Effect.records .handled])
    (hcomplete : ∀ status handled r run, I run →
      Ends (complete s status handled r) run (fun response => post (.success response)) failed)
    (hretry : ∀ source run, I run → post (.retryable (.readBody source)) run)
    (hfailed : ∀ e run, I run → failed e run)
    (h : I run) (status : Status) (reason : Option String) (r : HttpResponse) :
    Ends (handleResult s status reason r) run post failed := by
  have hrecord : Footprint [.records .handled] (record (.handled r) : CallM σ Unit) :=
    .record .handled rfl (by decide)
  have hperform : Footprint [] (perform (s.handlers.response.handle r)) := .perform _
  unfold handleResult
  refine ((hrecord.keeps hI hn h).mono_failed hfailed).bind fun _ _ h => ?_
  refine ((hperform.keeps hI (by simp) h).mono_failed hfailed).bind fun answer _ h => ?_
  split
  · exact (hcomplete status _ _ _ h).bind fun response _ h => h
  · exact hfailed _ _ h
  · exact hretry _ _ h
  · exact hfailed _ _ h

/-- Where a redirect leads to. -/
theorem onRedirect_ends {post : Outcome σ α authAllowed → Run σ → Prop}
    {failed : Error → Run σ → Prop} {location : String}
    (hstay : run.request.body.isRepeatable = false →
      post (.retryable (.service (.cannotFollow run.request.subject.service location))) run)
    (hgo : ∀ target, run.request.body.isRepeatable = true →
      run.request.fullUri.toOption.bind (Address.resolve? · location) = some target →
      post (.redirect target) run)
    (hlost : run.request.fullUri.toOption.bind (Address.resolve? · location) = none →
      failed (.invalidUri location) run) :
    Ends (onRedirect location) run post failed := by
  unfold onRedirect
  refine ends_bind.mpr ?_
  rw [ends_request]
  split
  · next hrep => exact hstay (by simpa using hrep)
  · next hrep =>
    split
    · next target htarget => exact hgo target (by simpa using hrep) htarget
    · next hnone => exact hlost hnone

/-- An answer that says where to go is a redirect. -/
theorem onResponse_ends_of_location {post : Outcome σ α authAllowed → Run σ → Prop}
    {failed : Error → Run σ → Prop} {r : HttpResponse} {location : String}
    (hlocation : location? r = some location)
    (h : ∀ run', Frame [.metrics, .records .milestone, .records .answered] run run' →
      Ends (onRedirect location) run' post failed) :
    Ends (onResponse s r) run post failed := by
  have hstatus : r.status.isSuccess = false := by
    unfold location? at hlocation
    split at hlocation
    · next heq =>
      rw [heq]
      decide
    · cases hlocation
  have hseen : Footprint [.metrics, .records .milestone, .records .answered] (do
      announce .dispatchCompleted
      record (.answered r.status)
      count fun m => { m with status := some r.status.code } : CallM σ Unit) :=
    .bind ((announce_footprint _).mono (by decide)) fun _ =>
      .bind (.record .answered rfl (by decide)) fun _ => .count _ (by decide)
  have hends : Ends (do
      announce .dispatchCompleted
      record (.answered r.status)
      count fun m => { m with status := some r.status.code }
      onRedirect location) run post failed := by
    simpa only [bind_assoc] using
      (hseen.ends_of_no_failure (by simp) run).bind fun _ run' hf => h run' hf
  unfold onResponse
  simpa only [hlocation, hstatus, Bool.false_eq_true, if_false] using hends

/-- What the rule for authentication retries answers, if it is asked at all. -/
theorem askAuthRetry_ends {post : Outcome σ α authAllowed → Run σ → Prop}
    {failed : Error → Run σ → Prop} {e : ServiceError} (hidle : post (.retryable (.service e)) run)
    (hasked : ∀ rule answer (allowed : authAllowed = true),
      s.context.authRetry = some rule → run.request.body.isRepeatable = true →
      (rule run.request e run.world) = answer →
      Ends (do
          record (.authAsked e answer.1.isSome)
          match answer.1 with
          | some parameters => return .authRetry parameters allowed
          | none => return .retryable (.service e))
        { run with world := answer.2 } post failed) :
    Ends (askAuthRetry s e) run post failed := by
  unfold askAuthRetry
  split
  · exact hidle
  · next rule hrule =>
    refine ends_bind.mpr ?_
    rw [ends_request]
    split
    · next hallowed =>
      refine ends_bind.mpr ?_
      rw [ends_perform]
      exact hasked rule _ hallowed.2 hrule hallowed.1 rfl
    · exact hidle

/-- What does not depend on the rule for authentication retries holds after it was asked. -/
theorem askAuthRetry_leaves (hI : DependsOn watched I) (hn : .records .authAsked ∉ watched)
    (h : I run) (e : ServiceError) :
    Ends (askAuthRetry s e : CallM σ (Outcome σ α authAllowed)) run
      (Outcome.Leaves s done I) fun _ => I := by
  refine askAuthRetry_ends h fun rule answer allowed hrule _ hanswer => ?_
  have hperform : Footprint [] (perform (rule run.request e)) := .perform _
  have hrecord : Footprint [.records .authAsked]
      (record (.authAsked e answer.1.isSome) : CallM σ Unit) := .record .authAsked rfl (by decide)
  have hask := hperform.keeps hI (by simp) h
  rw [ends_perform, hanswer] at hask
  refine (hrecord.keeps hI (fun effect hw hm => ?_) hask).bind fun _ _ h => ?_
  · exact hn (List.mem_singleton.mp hm ▸ hw)
  · split
    · next parameters heq =>
      exact ⟨⟨rule, run.request, e, run.world, hrule, hanswer ▸ heq⟩, h⟩
    · exact h

end CallM

namespace AnswerInvariant

open CallM

variable {s : CallSetting σ α} {watched : List Effect} {I : Run σ → Prop}
  {done : Response α → Run σ → Prop} {authAllowed : Bool} {run : Run σ}

variable (hI : AnswerInvariant s watched I done)

include hI

theorem answerRule : AnswerRule s watched I
    (Outcome.Leaves s done I : Outcome σ α authAllowed → Run σ → Prop) fun _ => I where
  dependsOn := hI.dependsOn
  apart := fun effect hw hm =>
    hI.apart effect hw ((by decide : quietResponseEffects ⊆ answerEffects) hm)
  handleResult := fun status reason r _ h => handleResult_ends hI.dependsOn
    (fun effect hw hm =>
      hI.apart effect hw ((by decide : [Effect.records .handled] ⊆ answerEffects) hm))
    (fun _ _ _ _ h => (hI.complete _ _ _ _ h).mono_failed fun _ _ h => h)
    (fun _ _ h => h) (fun _ _ h => h) h status reason r
  onRedirect := fun _ _ h => onRedirect_ends (fun _ => h) (fun _ _ _ => h) fun _ => h
  correctClock := hI.correctClock
  askAuthRetry := fun e _ h =>
    askAuthRetry_leaves hI.dependsOn (fun hm => hI.apart _ hm (by decide)) h e
  retryable := fun _ _ h => h
  fatal := fun _ _ _ h => h
  clock := fun hm => hI.apart _ hm (by decide)

/-- An exchange is as good as its dispatch. -/
theorem exchange {watched' : List Effect} {J : Run σ → Prop} {failed : Error → Run σ → Prop}
    (hJ : DependsOn watched' J) (hapart : ∀ effect ∈ watched', effect ∉ answerEffects)
    (hdispatch : ∀ limit run, J run → Ends (dispatch s limit) run (fun _ => I) failed)
    (hearly : ∀ e run, e.code = .deadlineExceeded → J run → failed e run)
    (hlate : ∀ e run, I run → failed e run) (h : J run) :
    Ends (exchange s : CallM σ (Outcome σ α authAllowed)) run
      (Outcome.Leaves s done I) failed := by
  have hquiet : ∀ effects ⊆ answerEffects, ∀ effect ∈ watched', effect ∉ effects :=
    fun effects hs effect hw hm => hapart effect hw (hs hm)
  unfold CallM.exchange
  refine (((exchangeLimit_footprint s).keepsIn hJ (hquiet _ (by decide)) h).mono_failed
      ?_).bind fun limit _ h => ?_
  · rintro e run ⟨hcode, h⟩
    exact hearly e run (by simpa using hcode) h
  · refine (((announce_footprint _).keepsIn hJ (hquiet _ (by decide)) h).mono_failed
        ?_).bind fun _ _ h => ?_
    · rintro e run ⟨hcode, -⟩
      exact absurd hcode (by simp)
    · refine (hdispatch limit _ h).bind fun answer _ h => ?_
      have hrule : AnswerRule s watched I
          (Outcome.Leaves s done I : Outcome σ α authAllowed → Run σ → Prop) fun _ => I :=
        hI.answerRule
      cases answer with
      | ok response => exact (hrule.onResponse h response).mono_failed hlate
      | error e => exact (hrule.onNoResponse h e limit).mono_failed hlate

end AnswerInvariant

namespace CallM

variable {s : CallSetting σ α} {watched : List Effect} {I : Run σ → Prop}
  {done : Response α → Run σ → Prop} {run : Run σ}

/-- The question whether to retry is the only one that a conclusion has to answer. -/
theorem conclude_ends (hI : DependsOn watched I)
    (hn : ∀ effect ∈ watched, effect ∉ [.metrics, .clientMetrics]) {o : Origin}
    (hadmits : ∀ failure number run, I run →
      Ends (admits s o failure number) run (fun _ => I) fun _ => I)
    {tally : Tally} {outcome : Outcome σ α (decide (tally.authRetries < s.limits.authRetries))}
    (h : outcome.Leaves s done I run) :
    Ends (conclude s o tally outcome) run (Turn.Leaves s done I) fun _ => I := by
  have hcount : ∀ (f : ClientMetrics → ClientMetrics),
      Footprint [.metrics, .clientMetrics] (countForClient s f) :=
    fun f => .countForClient s f (by decide)
  unfold conclude
  cases outcome with
  | success response => exact h
  | redirect target =>
    dsimp only
    split
    · exact ((hcount _).keeps hI hn h).bind fun _ _ h => And.intro trivial h
    · exact h
  | authRetry parameters allowed => exact h
  | retryable failure =>
    refine ((countException_footprint.mono (by decide)).keeps hI hn h).bind fun _ _ h => ?_
    split
    · refine (hadmits failure _ _ h).bind fun admitted _ h => ?_
      split
      · exact ((hcount _).keeps hI hn h).bind fun _ _ h => And.intro trivial h
      · exact h
    · exact h

end CallM

end ServiceCall
