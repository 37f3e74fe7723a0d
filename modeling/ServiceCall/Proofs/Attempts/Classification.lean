import ServiceCall.Proofs.Attempts.Decision
import ServiceCall.Proofs.Call.Reception

/-!
Failures by their status. A response that tells a failure is classified by its own status, and its
error handler decides no more than what else is known of the failure: a response that is too large
or comes from a failing server never ends a call for good, whether anybody can read it or not.
-/

namespace ServiceCall

variable {σ α : Type}

/-- A response with such a status tells a failure even if nobody can read it. -/
def Status.isDecisive (s : Status) : Bool := s = .payloadTooLarge || s.isServerError

/-- A failure below the level of responses, which the client may also have been told by name. -/
def HandlerFailure.isIo : HandlerFailure → Bool
  | .io _ => true
  | .failure e => e.isIo
  | _ => false

/-- The failure that an event shows to somebody, or that the clock is corrected for. -/
def Event.complaint? : Event σ → Option ServiceError
  | .clockSkewed _ failure _ => some failure
  | .authAsked failure _ => some failure
  | _ => none

/-! ### Complaints -/

/-- What is known of a response that tells a failure: the service that was called, the status, and
what the error handler has said of the response and left of it. -/
structure Complaint where
  service : String
  status : Status
  answer : Except HandlerFailure ServiceError
  left : HttpResponse

/-- The complaint of a response, whose handler is asked in the world. -/
def CallSetting.complaint (s : CallSetting σ α) (r : HttpResponse) (service : String) (world : σ) :
    Complaint where
  service := service
  status := r.status
  answer := (s.handlers.error r world).1.1
  left := (s.handlers.error r world).1.2

namespace Complaint

/-- The failure has the status of the response and the service of the call, and the identifier of
the request from the handler, or else from the header of the response. -/
structure Tells (c : Complaint) (e : ServiceError) : Prop where
  status : e.status = c.status.code
  service : e.service = c.service
  requestId : e.requestId = (c.answer.toOption.bind (·.requestId) <|> c.left.requestId?)

/-- The status does not decide, and the handler has failed otherwise than for want of input or
output. -/
def Aborts (c : Complaint) : Prop :=
  c.status.isDecisive = false ∧ ∃ failure, c.answer = .error failure ∧ failure.isIo = false

/-- What is made of a complaint, whatever the wording. -/
inductive Reads (c : Complaint) : Except Error ServiceError → Prop where
  | told {e : ServiceError} (tells : c.Tells e) (readable : ¬ c.Aborts) : c.Reads (.ok e)
  | unread {failure : HandlerFailure} {e : Error} (plain : c.status.isDecisive = false)
    (answer : c.answer = .error failure) (isIo : e.isIo = failure.isIo)
    (passedOn : ∀ told, e = .service told → failure = .failure (.service told)) :
    c.Reads (.error e)

/-- The outcomes of an attempt that a complaint does not end for good. An authentication retry is
granted for the failure that the complaint tells. -/
inductive Yields {authAllowed : Bool} (c : Complaint) (s : CallSetting σ α) :
    Outcome σ α authAllowed → Prop where
  | told {e : ServiceError} (tells : c.Tells e) : c.Yields s (.retryable (.service e))
  | granted {e : ServiceError} {rule : AuthRetryRule σ} {r : HttpRequest σ} {world : σ}
    {parameters : AuthRetry σ} {allowed : authAllowed = true} (tells : c.Tells e)
    (asked : s.context.authRetry = some rule) (grants : (rule r e world).1 = some parameters) :
    c.Yields s (.authRetry parameters allowed)
  | lost {failure : HandlerFailure} {e : Error} (plain : c.status.isDecisive = false)
    (answer : c.answer = .error failure) (isIo : e.isIo = true) : c.Yields s (.retryable e)

/-- Whoever is shown a failure is shown the one that the complaint tells. -/
def Shows (c : Complaint) (since : Journal σ) : Prop :=
  ∀ event ∈ since, ∀ e, event.complaint? = some e → c.Tells e

end Complaint

/-! ### What is made of a complaint -/

theorem HandlerFailure.asFailure_of_isDecisive (failure : HandlerFailure) {status : Status}
    (reason : Option String) (h : status.isDecisive = true) :
    ∃ e, failure.asFailure status reason = .ok e ∧ e.requestId = none := by
  unfold asFailure
  split
  · exact ⟨_, rfl, rfl⟩
  · next hlarge =>
    have hserver : status.isServerError = true := by simpa [Status.isDecisive, hlarge] using h
    rw [if_pos hserver]
    exact ⟨_, rfl, rfl⟩

/-- With any other status the failure of the handler is the one that is told. -/
theorem HandlerFailure.asFailure_of_not_isDecisive (failure : HandlerFailure) {status : Status}
    (reason : Option String) (h : status.isDecisive = false) :
    ∃ e, failure.asFailure status reason = .error e ∧ e.isIo = failure.isIo ∧
      ∀ told, e = .service told → failure = .failure (.service told) := by
  obtain ⟨hlarge, hserver⟩ : status ≠ .payloadTooLarge ∧ status.isServerError = false := by
    simpa [Status.isDecisive] using h
  unfold asFailure
  rw [if_neg hlarge, if_neg (by simp [hserver])]
  cases failure with
  | failure e => exact ⟨e, rfl, rfl, fun _ heq => heq ▸ rfl⟩
  | io source => exact ⟨_, rfl, rfl, nofun⟩
  | _ => exact ⟨_, rfl, rfl, nofun⟩

namespace Complaint

theorem tells_settled (c : Complaint) {e : ServiceError}
    (h : e.requestId = c.answer.toOption.bind (·.requestId)) :
    c.Tells (e.settled c.service c.status c.left.requestId?) :=
  ⟨rfl, rfl, congrArg (· <|> c.left.requestId?) h⟩

theorem not_aborts_of_isDecisive {c : Complaint} (h : c.status.isDecisive = true) :
    ¬ c.Aborts := fun haborts => Bool.false_ne_true (haborts.1.symm.trans h)

theorem not_aborts_of_isIo {c : Complaint} {failure : HandlerFailure}
    (h : c.answer = .error failure) (hio : failure.isIo = true) : ¬ c.Aborts := by
  rintro ⟨-, failure', h', hnot⟩
  cases h.symm.trans h'
  exact Bool.false_ne_true (hnot.symm.trans hio)

theorem Shows.concat {c : Complaint} {since : Journal σ} {event : Event σ} (h : c.Shows since)
    (hevent : ∀ e, event.complaint? = some e → c.Tells e) : c.Shows (since ++ [event]) := by
  intro event' hmem
  obtain hmem | hmem := List.mem_append.mp hmem
  · exact h event' hmem
  · rwa [List.mem_singleton.mp hmem]

theorem reads_of_answer (c : Complaint) (reason : Option String) :
    c.Reads (Except.map (·.settled c.service c.status c.left.requestId?)
      (match c.answer with
        | .ok e => .ok e
        | .error failure => failure.asFailure c.status reason)) := by
  cases hanswer : c.answer with
  | ok e =>
    refine .told (c.tells_settled (by rw [hanswer]; rfl)) ?_
    rintro ⟨-, failure, herror, -⟩
    cases hanswer.symm.trans herror
  | error failure =>
    cases hstatus : c.status.isDecisive with
    | true =>
      obtain ⟨e, hfailure, hid⟩ := failure.asFailure_of_isDecisive reason hstatus
      dsimp only
      rw [hfailure]
      exact .told (c.tells_settled (by rw [hanswer, hid]; rfl)) (not_aborts_of_isDecisive hstatus)
    | false =>
      obtain ⟨e, hfailure, hio, hpassed⟩ := failure.asFailure_of_not_isDecisive reason hstatus
      dsimp only
      rw [hfailure]
      exact .unread hstatus hanswer hio hpassed

/-- The standard condition retries what a failing server tells, whatever else it is. -/
theorem Yields.standard_retries {authAllowed : Bool} {c : Complaint} {s : CallSetting σ α}
    {outcome : Outcome σ α authAllowed} {failure : Error} (h : c.Yields s outcome)
    (houtcome : outcome = .retryable failure) (hstatus : c.status.isTransient = true)
    {d : FailedAttempt σ} (hd : d.error = failure) :
    RetryRule.standard d = pure d.repeatable := by
  have hholds : RetryRule.holds d = d.repeatable := by
    subst hd
    cases h with
    | told tells =>
      obtain hd := Outcome.retryable.inj houtcome
      have htransient : ServiceError.isTransient _ = true :=
        (congrArg (fun code => Status.isTransient ⟨code⟩) tells.status).trans hstatus
      simp [RetryRule.holds, ← hd, Error.isIo, Error.service?, htransient]
    | granted => cases houtcome
    | lost _ _ isIo =>
      obtain hd := Outcome.retryable.inj houtcome
      simp [RetryRule.holds, ← hd, isIo]
  funext world
  rw [RetryRule.standard, hholds]
  rfl

end Complaint

/-! ### The attempt -/

namespace CallM

variable {s : CallSetting σ α} {authAllowed : Bool} {run : Run σ}

theorem readFailure_reads (s : CallSetting σ α) (r : HttpResponse) (run : Run σ) :
    Ends (readFailure s r) run
      (fun reading run' => run'.journal = run.journal ∧
        (s.complaint r run.request.subject.service run.world).Reads reading.1)
      fun _ _ => False := by
  unfold readFailure
  rw [ends_bind, ends_perform, ends_bind, ends_request, ends_pure]
  exact ⟨rfl, (s.complaint r run.request.subject.service run.world).reads_of_answer r.reason⟩

theorem Follows.of_journal_eq {j : Journal σ} {P : Journal σ → Prop} {run' : Run σ}
    (h : Follows j P run) (hj : run'.journal = run.journal) : Follows j P run' := by
  obtain ⟨since, hsince, hP⟩ := h
  exact ⟨since, hj.trans hsince, hP⟩

theorem correctClock_shows {c : Complaint} {e : ServiceError} {j : Journal σ}
    (htells : c.Tells e) (headers : Headers) (h : Follows j c.Shows run) :
    Ends (correctClock s headers e) run (fun _ => Follows j c.Shows) fun _ _ => False := by
  have hskewed : ∀ now run', run'.journal = run.journal ++ [.clockSkewed headers e now] →
      Follows j c.Shows run' := by
    intro now run' hj
    refine h.append hj (by simp [Event.kind]) fun since hsince => hsince.concat ?_
    rintro _ ⟨⟩
    exact htells
  unfold correctClock
  split
  · rw [ends_bind, ends_perform, ends_bind, ends_record, ends_bind, ends_get]
    dsimp only
    rw [ends_bind, ends_modify]
    split
    · exact hskewed _ _ rfl
    · rw [ends_bind, ends_revise, ends_countForClient]
      exact hskewed _ _ rfl
  · exact h

theorem askAuthRetry_yields {c : Complaint} {e : ServiceError} {j : Journal σ}
    (htells : c.Tells e) (h : Follows j c.Shows run) :
    Ends (askAuthRetry s e) run
      (fun (outcome : Outcome σ α authAllowed) run' =>
        c.Yields s outcome ∧ Follows j c.Shows run') fun _ _ => False := by
  refine askAuthRetry_ends ⟨.told htells, h⟩ fun rule answer allowed hrule _ hanswer => ?_
  have hasked : ∀ run', run'.journal = run.journal ++ [.authAsked e answer.1.isSome] →
      Follows j c.Shows run' := by
    intro run' hj
    refine h.append hj (by simp [Event.kind]) fun since hsince => hsince.concat ?_
    rintro _ ⟨⟩
    exact htells
  rw [ends_bind, ends_record]
  cases hgrants : answer.1 with
  | some parameters =>
    exact ⟨.granted htells hrule (hanswer ▸ hgrants), hasked _ (by rw [hgrants])⟩
  | none => exact ⟨.told htells, hasked _ (by rw [hgrants])⟩

/-- What is done with the complaint of the run. -/
theorem onFailureResponse_classifies {r : HttpResponse} {j : Journal σ} {c : Complaint}
    (hc : c = s.complaint r run.request.subject.service run.world) (h : Follows j c.Shows run) :
    Ends (onFailureResponse s r) run
      (fun (outcome : Outcome σ α authAllowed) run' =>
        ¬ c.Aborts ∧ c.Yields s outcome ∧ Follows j c.Shows run')
      fun e run' => c.Aborts ∧ Follows j c.Shows run' ∧
        ∀ named, e = .service named → c.answer = .error (.failure (.service named)) := by
  unfold onFailureResponse
  refine ((readFailure_reads s r run).mono_failed fun _ _ => False.elim).bind ?_
  rintro ⟨reading, left⟩ run' ⟨hj, hreads⟩
  rw [← hc] at hreads
  have h' : Follows j c.Shows run' := h.of_journal_eq hj
  cases hreads with
  | unread plain answer isIo passedOn =>
    dsimp only
    split
    · next hio =>
      exact ⟨Complaint.not_aborts_of_isIo answer (isIo ▸ hio), .lost plain answer hio, h'⟩
    · next hnot =>
      rw [isIo, Bool.not_eq_true] at hnot
      exact ⟨⟨plain, _, answer, hnot⟩, h', fun named hnamed => by rw [answer, passedOn named hnamed]⟩
  | told tells readable =>
    dsimp only
    refine Ends.bind (((countThrottle_footprint s _).ends_of_no_failure (by simp) run').mono_failed
      fun _ _ => False.elim) fun _ counted hcounted => ?_
    refine ((correctClock_shows tells left.headers
      (h'.of_journal_eq (hcounted.journal_eq (by simp)))).mono_failed
        fun _ _ => False.elim).bind fun _ corrected hcorrected => ?_
    exact (askAuthRetry_yields tells hcorrected).mono (fun _ _ hyields => ⟨readable, hyields⟩)
      fun _ _ => False.elim

end CallM

/-- A response that tells a failure is classified by its own status. The attempt ends for good if
and only if the error handler has failed, though not for want of input or output, and the status
tells nothing by itself; otherwise what may be retried is a failure with the status of the response
and the service of the call, and that failure is the one for which an authentication retry is
granted. Only a failure that the handler itself has named is passed on as it is. If the server has
failed for a time, the standard condition admits a retry of whatever can be sent again. -/
theorem failure_classified_by_status {s : CallSetting σ α} {directive : Directive σ} {number : Nat}
    {start sent : Run σ} {limit : Option Duration} {r : HttpResponse} (authAllowed : Bool)
    (hsent : CallM.sendOut s directive number start = .ok (limit, .ok r) sent)
    (hfailed : r.status.isSuccess = false) (hnone : CallM.location? r = none) :
    let told := (Milestone.dispatchCompleted.tellTo sent.request.subject.listener sent.world).2
    let c := s.complaint r sent.request.subject.service told
    CallM.Ends (CallM.attempt s directive number) start
      (fun (outcome : Outcome σ α authAllowed) last =>
        ¬ c.Aborts ∧ c.Yields s outcome ∧ CallM.Follows sent.journal c.Shows last ∧
          ∀ failure, outcome = .retryable failure → r.status.isTransient = true →
            ∀ d : FailedAttempt σ, d.error = failure → RetryRule.standard d = pure d.repeatable)
      fun e last => c.Aborts ∧ CallM.Follows sent.journal c.Shows last ∧
        ∀ named, e = .service named → c.answer = .error (.failure (.service named)) := by
  intro told c
  have hfollows : CallM.Follows sent.journal c.Shows { sent with
      world := told
      metrics := { sent.metrics with status := some r.status.code }
      journal := sent.journal ++ [.milestone .dispatchCompleted, .answered r.status] } := by
    refine ⟨_, rfl, by simp [Event.kind], ?_⟩
    simp [Complaint.Shows, Event.complaint?]
  rw [CallM.attempt_eq_sendOut, CallM.ends_bind, CallM.ends_ok_iff hsent]
  unfold CallM.interpret CallM.onResponse
  rw [CallM.ends_bind, CallM.ends_ok_iff (CallM.announce_eq .dispatchCompleted sent),
    CallM.ends_bind, CallM.ends_record, CallM.ends_bind, CallM.ends_count, List.append_assoc,
    if_neg (Bool.not_eq_true _ ▸ hfailed), hnone]
  refine (CallM.onFailureResponse_classifies rfl hfollows).mono_ok ?_
  rintro outcome last ⟨hnot, hyields, hshows⟩
  exact ⟨hnot, hyields, hshows, fun failure houtcome htransient d hd =>
    hyields.standard_retries houtcome htransient hd⟩

namespace Rehearsal

/-- No response can be read. -/
def mute (failure : HandlerFailure) : Handlers Stage Unit where
  response := { handle := fun r => return (.error failure, r) }
  error := fun r => return (.error failure, r)

/-- The handler has a failure of another service at hand. -/
def named : ServiceError where
  service := "other"
  status := 500
  code := "Told"
  message := "told"

def namedAt (status : Status) : CallSetting Stage Unit :=
  client.settingAt (mute (.failure (.service named))) unsigned paid
    { steps := [.answering status {}] }

def outsetAt (status : Status) : Run Stage :=
  client.runAt (client.start 0) paid { steps := [.answering status {}] }

/-- The request is sent, and a response with the status comes back. -/
theorem exists_sent_namedAt {status : Status}
    (h : (match CallM.sendOut (namedAt status) .start 1 (outsetAt status) with
      | .ok (_, .ok r) sent => r.status = status && (CallM.location? r).isNone &&
        sent.request.subject.service = "kec"
      | _ => false) = true) :
    ∃ limit r sent,
      CallM.sendOut (namedAt status) .start 1 (outsetAt status) = .ok (limit, .ok r) sent ∧
      r.status = status ∧ CallM.location? r = none ∧ sent.request.subject.service = "kec" := by
  split at h
  · next limit r sent hsent =>
    obtain ⟨⟨hstatus, hnone⟩, hservice⟩ :
        (r.status = status ∧ CallM.location? r = none) ∧
          sent.request.subject.service = "kec" := by simpa using h
    exact ⟨limit, r, sent, hsent, hstatus, hnone, hservice⟩
  · cases h

end Rehearsal

open Rehearsal in
/-- A server that is not available may be asked again, whatever failure the handler names. -/
theorem failure_of_unavailable_server :
    let s := namedAt ⟨503⟩
    ∃ limit r sent, CallM.sendOut s .start 1 (outsetAt ⟨503⟩) = .ok (limit, .ok r) sent ∧
      r.status.isSuccess = false ∧ CallM.location? r = none ∧
      CallM.Ends (CallM.attempt s .start 1) (outsetAt ⟨503⟩)
        (fun (outcome : Outcome Stage Unit true) _ =>
          ∃ e, outcome = .retryable (.service e) ∧ e.status = 503 ∧ e.service = "kec")
        fun _ _ => False := by
  intro s
  obtain ⟨limit, r, sent, hsent, hstatus, hnone, hservice⟩ :=
    @exists_sent_namedAt ⟨503⟩ (by decide +kernel)
  have hfailed : r.status.isSuccess = false := by rw [hstatus]; decide
  have hdecisive : r.status.isDecisive = true := by rw [hstatus]; decide
  refine ⟨limit, r, sent, hsent, hfailed, hnone,
    (failure_classified_by_status true hsent hfailed hnone).mono ?_ ?_⟩
  · rintro outcome last ⟨-, hyields, -⟩
    cases hyields with
    | told tells =>
      exact ⟨_, rfl, tells.status.trans (congrArg Status.code hstatus), tells.service.trans hservice⟩
    | granted _ asked => cases asked
    | lost plain => exact absurd (plain.symm.trans hdecisive) Bool.false_ne_true
  · rintro e last ⟨⟨plain, -⟩, -⟩
    exact Bool.false_ne_true (plain.symm.trans hdecisive)

open Rehearsal in
/-- With another status the attempt ends with what the handler names, which has neither the status
of the response nor the service of the call. -/
theorem named_failure_passed_on :
    let s := namedAt ⟨403⟩
    ∃ limit r sent last, CallM.sendOut s .start 1 (outsetAt ⟨403⟩) = .ok (limit, .ok r) sent ∧
      r.status = ⟨403⟩ ∧ CallM.location? r = none ∧
      (CallM.attempt s .start 1 : CallM Stage (Outcome Stage Unit true)) (outsetAt ⟨403⟩) =
        .error (.service named) last ∧
      named.status ≠ r.status.code ∧ named.service ≠ sent.request.subject.service := by
  intro s
  obtain ⟨limit, r, sent, hsent, hstatus, hnone, hservice⟩ :=
    @exists_sent_namedAt ⟨403⟩ (by decide +kernel)
  have hfatal : (match (CallM.attempt s .start 1 : CallM Stage (Outcome Stage Unit true))
      (outsetAt ⟨403⟩) with
      | .error e _ => decide (e = .service named)
      | .ok _ _ => false) = true := by decide +kernel
  cases hattempt : (CallM.attempt s .start 1 : CallM Stage (Outcome Stage Unit true))
      (outsetAt ⟨403⟩) with
  | ok outcome last =>
    rw [hattempt] at hfatal
    cases hfatal
  | error e last =>
    rw [hattempt] at hfatal
    obtain rfl : e = .service named := of_decide_eq_true hfatal
    refine ⟨limit, r, sent, last, hsent, hstatus, hnone, rfl, ?_, ?_⟩
    · rw [hstatus]
      decide
    · rw [hservice]
      decide

end ServiceCall
