import ServiceCall.Proofs.Attempts.Stages
import ServiceCall.Rehearsal.Client

/-!
Restoration of the request. Whatever the attempts before have done to it, every attempt starts
from the request with which the first one began; a call whose body cannot go back ends.
-/

namespace ServiceCall

variable {σ α : Type}

namespace CallM

variable {s : CallSetting σ α} {touch : HttpRequest σ → HttpRequest σ → Prop}
  {o : HttpRequest σ} {directive : Directive σ} {pending : Option (Directive σ)}
  {P : HttpRequest σ → Prop} {effects : List Effect} {run : Run σ}

/-- An action that leaves the request alone leaves the call where it is, and its failures have
nothing to do with the body. -/
theorem Footprint.stays {β : Type} {act : CallM σ β} (hact : Footprint effects act)
    (hn : ∀ effect ∈ .fails .streamReset :: (anyRequest ++ attemptEffects), effect ∉ effects)
    (h : Midway touch o pending P run) :
    Ends act run (fun _ => Midway touch o pending P) (GivesUp touch o) := by
  refine (hact.keepsIn midway_dependsOn_request (fun effect hw => hn effect (.tail _ hw)) h).mono
    (fun _ _ h => h) ?_
  rintro e run' ⟨hcode, h⟩
  refine h.givesUp_of_code fun heq => hn _ (.head _) ?_
  rwa [heq] at hcode

/-! ### Before an attempt -/

theorem ends_replaceBody {ok : Unit → Run σ → Prop} {failed : Error → Run σ → Prop}
    (move : Body → Except IoError Body) :
    Ends (do
      let body ← ofExcept .streamReset (move (← request).body)
      revise fun r => { r with body } : CallM σ Unit) run ok failed ↔
      match move run.request.body with
      | .ok body => ok () { run with request := { run.request with body } }
      | .error e => failed (.streamReset e) run := by
  simp only [ends_bind, ends_request, ends_ofExcept, ends_revise]
  cases move run.request.body <;> rfl

theorem markBody_restores (hrep : o.body.isRepeatable = true)
    (h : Midway touch o pending (fun r => Whole o o.headers r ∧ Aimed directive r) run) :
    Ends markBody run
      (fun _ => Midway touch o pending fun r => Restored o o.headers r ∧ Aimed directive r)
      (GivesUp touch o) := by
  obtain ⟨hr, haimed⟩ := h.request
  refine (ends_replaceBody Body.mark).mpr ?_
  split
  · next body hmark =>
    obtain ⟨halike, hfresh⟩ := Body.fresh_of_mark (hr.alike.isRepeatable.trans hrep) hmark
    rw [hr.rest] at hfresh
    refine ⟨⟨⟨⟨hr.method, hr.headers, hr.parameters, ?_, hfresh.rest⟩, hfresh.rewinds⟩, haimed⟩,
      h.signer, h.pending, h.obeys⟩
    exact hr.alike.trans halike
  · next e hmark =>
    refine ⟨h.obeys, fun _ _ hs => ?_⟩
    exact absurd (hr.alike.steady hs) (Body.not_steady_of_mark_error hmark)

/-- The mark is set anew, or it has been set before. -/
theorem remark_restores (hrep : o.body.isRepeatable = true)
    (h : Midway touch o pending (fun r => Untouched o r ∧ Aimed directive r) run) :
    Ends (do if (← request).body.isRemarked then markBody : CallM σ Unit) run
      (fun _ => Midway touch o pending fun r => Restored o o.headers r ∧ Aimed directive r)
      (GivesUp touch o) := by
  obtain ⟨hr, haimed⟩ := h.request
  refine ends_bind.mpr ?_
  rw [ends_request]
  split
  · exact markBody_restores hrep (h.mono fun _ hr => ⟨hr.1.toWhole, hr.2⟩)
  · next hremarked =>
    refine ⟨⟨⟨hr.toWhole, hr.rewinds ?_⟩, haimed⟩, h.signer, h.pending, h.obeys⟩
    exact Bool.not_eq_true _ ▸ hremarked

theorem resetBody_restores (h : Midway touch o pending (fun r => Returnable o r ∧
      r.headers = o.headers ∧ r.parameters = o.parameters) run) :
    Ends resetBody run (fun _ => Midway touch o pending (Restored o o.headers))
      (GivesUp touch o) := by
  obtain ⟨hr, hheaders, hparameters⟩ := h.request
  refine (ends_replaceBody Body.reset).mpr ?_
  split
  · next body hreset =>
    obtain ⟨halike, hfresh⟩ := Body.fresh_of_reset hr.rewinds hreset
    refine ⟨⟨⟨hr.method, hheaders, hparameters, ?_, hfresh.rest⟩, hfresh.rewinds⟩,
      h.signer, h.pending, h.obeys⟩
    exact hr.alike.trans halike
  · next e hreset =>
    refine ⟨h.obeys, fun _ _ hs => ⟨hr.alike, ?_⟩⟩
    exact Body.overread_of_reset_error hr.rewinds (hr.alike.steady hs) hreset

theorem direct_aims (directive : Directive σ)
    (h : Midway touch o pending (Restored o o.headers) run) :
    Ends (direct directive) run
      (fun _ => Midway touch o pending fun r => Restored o o.headers r ∧ Aimed directive r)
      (GivesUp touch o) := by
  have hr := h.request
  have hrest : (∀ target, directive ≠ .redirect target) →
      Midway touch o pending (fun r => Restored o o.headers r ∧ Aimed directive r) run :=
    fun hne => h.mono fun r hr => ⟨hr, fun target heq => absurd heq (hne target)⟩
  unfold direct
  split
  · next target =>
    split
    · refine ⟨⟨?_, ?_⟩, h.signer, h.pending, h.obeys⟩
      · exact ⟨⟨hr.method, hr.headers, hr.parameters, hr.alike, hr.rest⟩, hr.rewinds⟩
      · intro target' heq
        exact congrArg some (Directive.redirect.inj heq)
    · exact h.givesUp_of_code (by simp [Error.code])
  · have h := hrest fun target heq => by cases heq
    split
    · refine ⟨⟨?_, h.request.2⟩, h.signer, h.pending, h.obeys⟩
      exact ⟨⟨hr.method, hr.headers, hr.parameters, hr.alike, hr.rest⟩, hr.rewinds⟩
    · exact h
  · exact hrest fun target heq => by cases heq
  · exact hrest fun target heq => by cases heq

theorem prepare_restores (hrep : o.body.isRepeatable = true)
    (h : Midway touch o pending (ReadyFor o directive) run) :
    Ends (prepare (.of o) directive) run
      (fun _ => Midway touch o pending fun r => Restored o o.headers r ∧ Aimed directive r)
      (GivesUp touch o) := by
  have hlater : Midway touch o pending (Returnable o) run →
      Ends (do
          revise (Origin.of o).restore
          resetBody
          direct directive
          if (← request).body.isRemarked then markBody) run
        (fun _ => Midway touch o pending fun r => Restored o o.headers r ∧ Aimed directive r)
        (GivesUp touch o) := by
    intro h
    have hr := h.request
    have hreset : Midway touch o pending
        (fun r => Returnable o r ∧ r.headers = o.headers ∧ r.parameters = o.parameters)
        { run with request := (Origin.of o).restore run.request } :=
      ⟨⟨⟨hr.method, hr.alike, hr.rewinds⟩, rfl, rfl⟩, h.signer, h.pending, h.obeys⟩
    rw [ends_bind, ends_revise]
    refine (resetBody_restores hreset).bind fun _ _ h => ?_
    refine (direct_aims directive h).bind fun _ _ h => ?_
    exact remark_restores hrep (h.mono fun _ hr => ⟨hr.1.untouched, hr.2⟩)
  unfold prepare
  cases directive with
  | start => exact remark_restores hrep (h.mono fun _ hr => ⟨hr, fun _ heq => by cases heq⟩)
  | retry failure => exact hlater h
  | redirect target => exact hlater h
  | authRetry parameters => exact hlater h

/-! ### Up to the signature -/

theorem stampRetryHeader_stamps (number : Nat)
    (h : Midway touch o pending (fun r => Restored o o.headers r ∧ Aimed directive r) run) :
    Ends (stampRetryHeader number) run
      (fun _ => Midway touch o pending fun r => Stamped o r ∧ Aimed directive r)
      (GivesUp touch o) := by
  obtain ⟨hr, haimed⟩ := h.request
  have hname : HeaderName.ofString? retryHeader = some retryHeader := by decide
  unfold stampRetryHeader stampHeader
  simp only [ends_bind, ends_get, ends_request, ends_ofExcept, ends_revise,
    HttpRequest.setHeader, hname]
  cases HeaderValue.ofString? (retryHeaderValue number run.lastBackoff run.client.pool) with
  | none => exact h.givesUp_of_code (by simp [Error.code])
  | some value =>
    refine ⟨⟨⟨value, ?_⟩, haimed⟩, h.signer, h.pending, h.obeys⟩
    have hheaders :
        run.request.headers.set retryHeader value = o.headers.set retryHeader value := by
      rw [hr.headers]
    exact ⟨⟨hr.method, hheaders, hr.parameters, hr.alike, hr.rest⟩, hr.rewinds⟩

/-- A settled binding is the one there was, or the one of an authentication retry. -/
theorem eq_or_granted_of_settled {b binding : BoundSigner σ} {endpoint : Uri}
    (h : b.plan endpoint directive = .settled binding) :
    binding = b ∨ ∃ parameters, directive = .authRetry parameters ∧
      binding = .bound parameters.endpoint parameters.signer := by
  have hkeep : ∀ binding, b.keep endpoint = .settled binding → binding = b := by
    intro binding h
    cases b with
    | unbound => cases h
    | bound address signer => exact (BoundSigner.Plan.settled.inj h).symm
  unfold BoundSigner.plan at h
  split at h
  · next parameters => exact .inr ⟨parameters, rfl, (BoundSigner.Plan.settled.inj h).symm⟩
  · split at h
    · split at h
      · exact .inl (hkeep _ h)
      · cases h
    · cases h
  · exact .inl (hkeep _ h)
  · exact .inl (hkeep _ h)

theorem bindSigner_binds (hs : s.context.SignersTouch touch)
    (hgranted : ∀ parameters, directive = .authRetry parameters → Granted s parameters)
    (h : Midway touch o pending P run) :
    Ends (bindSigner s directive) run
      (fun signer run' => Midway touch o pending P run' ∧
        ∀ bound, signer = some bound → bound.Touches touch)
      (GivesUp touch o) := by
  have hbind : ∀ (new : BoundSigner σ) (run : Run σ), Midway touch o pending P run →
      (∀ signer, new.signer? = some signer → signer.Touches touch) →
      Ends (do
          record (.signerBound new)
          modify fun run => { run with binding := new }
          return new.signer? : CallM σ (Option (Signer σ))) run
        (fun signer run' => Midway touch o pending P run' ∧
          ∀ bound, signer = some bound → bound.Touches touch)
        (GivesUp touch o) := by
    intro new run h hnew
    have hrecord : Footprint [.records .signerBound] (record (.signerBound new) : CallM σ Unit) :=
      .record .signerBound rfl (by decide)
    refine (hrecord.stays (by decide) h).bind fun _ _ h => ?_
    exact ⟨⟨h.request, hnew, h.pending, h.obeys⟩, hnew⟩
  unfold bindSigner
  rw [ends_bind, ends_get]
  dsimp only
  split
  · next binding hplan =>
    refine hbind binding run h ?_
    rcases eq_or_granted_of_settled hplan with rfl | ⟨parameters, rfl, rfl⟩
    · exact h.signer
    · obtain ⟨rule, r, e, world, hrule, hanswer⟩ := hgranted parameters rfl
      exact fun signer => hs.granted rule r e world parameters signer hrule hanswer
  · next address hplan =>
    have hrecord : Footprint [.records .signerAsked]
        (record (.signerAsked address) : CallM σ Unit) := .record .signerAsked rfl (by decide)
    refine (hrecord.stays (by decide) h).bind fun _ run' h => ?_
    rw [ends_bind, ends_perform]
    refine hbind _ _ ⟨h.request, h.signer, h.pending, h.obeys⟩ ?_
    exact fun signer => hs.found address run'.world signer

theorem sign_hands (signer : Signer σ) (credentials : Credentials)
    (hsigner : signer.Touches touch)
    (h : Midway touch o pending (fun r => Stamped o r ∧ Aimed directive r) run) :
    Ends (sign signer credentials) run
      (fun _ => Midway touch o pending (HandedOn touch o directive)) (GivesUp touch o) := by
  have hsign : ∀ (offset : Int) (run : Run σ),
      Midway touch o pending (fun r => Stamped o r ∧ Aimed directive r) run →
      Ends (do
          record (.signing signer offset (← request))
          let answer ← performOnRequest fun r => signer.sign r credentials
          let r ← request
          ofExcept (.signing r.method r.loggedUri) answer : CallM σ Unit) run
        (fun _ => Midway touch o pending (HandedOn touch o directive)) (GivesUp touch o) := by
    intro offset run h
    obtain ⟨hstamped, haimed⟩ := h.request
    have hobeys : (run.journal ++ [Event.signing signer offset run.request]).Obeys
        (SendsRestored touch o) := h.obeys.concat hstamped
    have hpending :
        (run.journal ++ [Event.signing signer offset run.request]).pending = pending := by
      rw [Journal.pending_append (by simp [Event.kind]), h.pending]
    have hhanded : Midway touch o pending (HandedOn touch o directive)
        { run with
          world := (signer.sign run.request credentials run.world).2
          request := (signer.sign run.request credentials run.world).1.2
          journal := run.journal ++ [.signing signer offset run.request] } :=
      ⟨⟨run.request, hstamped, haimed, hsigner _ _ _⟩, h.signer, hpending, hobeys⟩
    simp only [ends_bind, ends_request, ends_record, ends_performOnRequest, ends_ofExcept]
    split
    · exact hhanded
    · exact hhanded.givesUp_of_code (by simp [Error.code])
  unfold sign
  rw [ends_bind, ends_get]
  dsimp only
  split
  · exact hsign _ run h
  · obtain ⟨⟨value, hr⟩, haimed⟩ := h.request
    rw [ends_bind, ends_revise]
    refine hsign _ _ ⟨⟨⟨value, ?_⟩, haimed⟩, h.signer, h.pending, h.obeys⟩
    exact ⟨⟨hr.method, hr.headers, hr.parameters, hr.alike, hr.rest⟩, hr.rewinds⟩

theorem signWith_hands (hm : Mild touch) {signer : Option (Signer σ)}
    (credentials : Option Credentials)
    (hsigner : ∀ bound, signer = some bound → bound.Touches touch)
    (h : Midway touch o pending (fun r => Stamped o r ∧ Aimed directive r) run) :
    Ends (signWith signer credentials) run
      (fun _ => Midway touch o pending (HandedOn touch o directive)) (GivesUp touch o) := by
  unfold signWith
  split
  · exact sign_hands _ _ (hsigner _ rfl) h
  · exact h.mono fun r hr => ⟨r, hr.1, hr.2, hm.refl r⟩

/-! ### The exchange -/

theorem dispatch_sends (hm : Mild touch) (ht : s.client.transport.Touches HttpRequest.Reads)
    (limit : Option Duration)
    (h : Midway touch o (some directive) (HandedOn touch o directive) run) :
    Ends (dispatch s limit) run (fun _ => Midway touch o none (Returnable o))
      (GivesUp touch o) := by
  obtain ⟨stamped, ⟨value, hstamped⟩, haimed, htouch⟩ := h.request
  unfold dispatch
  simp only [ends_bind, ends_request, ends_get, ends_record, ends_performOnRequest]
  refine ⟨?_, h.signer, Journal.pending_dispatched _ _ _ _, ?_⟩
  · exact (hstamped.returnable.of_reads (hm.reads _ _ htouch)).of_reads (ht _ _ _)
  · exact h.obeys.concat ⟨directive, h.pending, h.request⟩

theorem returnable_answerInvariant (s : CallSetting σ α)
    (touch : HttpRequest σ → HttpRequest σ → Prop) (o : HttpRequest σ) :
    AnswerInvariant s ([.request .method, .request .body] ++ attemptEffects)
      (Midway touch o none (Returnable o)) fun _ => Midway touch o none (Returnable o) where
  dependsOn := midway_dependsOn_body
  apart := by decide
  complete := fun status handled r _ h =>
    (complete_footprint s status handled r).keeps midway_dependsOn_body (by decide) h
  correctClock := fun headers e _ h =>
    (correctClock_footprint s headers e).keeps midway_dependsOn_body (by decide) h

theorem exchange_sends {authAllowed : Bool} (hm : Mild touch)
    (ht : s.client.transport.Touches HttpRequest.Reads)
    (h : Midway touch o (some directive) (HandedOn touch o directive) run) :
    Ends (exchange s : CallM σ (Outcome σ α authAllowed)) run
      (Outcome.Leaves s (fun _ => Midway touch o none (Returnable o))
        (Midway touch o none (Returnable o))) (GivesUp touch o) := by
  refine (returnable_answerInvariant s touch o).exchange midway_dependsOn_request (by decide)
    (fun limit run h => dispatch_sends hm ht limit h) ?_ (fun _ _ h => h.givesUp) h
  exact fun e run hcode h => h.givesUp_of_code (by rw [hcode]; decide)

theorem attempt_sends {authAllowed : Bool} (hm : Mild touch) (hs : s.context.SignersTouch touch)
    (ht : s.client.transport.Touches HttpRequest.Reads)
    (hgranted : ∀ parameters, directive = .authRetry parameters → Granted s parameters)
    (number : Nat)
    (h : Midway touch o (some directive)
      (fun r => Restored o o.headers r ∧ Aimed directive r) run) :
    Ends (attempt s directive number : CallM σ (Outcome σ α authAllowed)) run
      (Outcome.Leaves s (fun _ => Midway touch o none (Returnable o))
        (Midway touch o none (Returnable o))) (GivesUp touch o) := by
  unfold attempt
  refine ((approach_footprint s directive number).stays (by decide) h).bind
    fun credentials _ h => ?_
  refine (stampRetryHeader_stamps number h).bind fun _ _ h => ?_
  refine (bindSigner_binds hs hgranted h).bind fun signer _ ⟨h, hsigner⟩ => ?_
  refine (signWith_hands hm credentials hsigner h).bind fun _ _ h => ?_
  exact exchange_sends hm ht h

/-! ### The turns -/

theorem startAttempt_starts (number : Nat) (h : Midway touch o none P run) :
    Ends (startAttempt s directive number) run (fun _ => Midway touch o (some directive) P)
      (GivesUp touch o) := by
  have hstarted : Midway touch o (some directive) P
      { run with journal := run.journal ++ [.attemptStarted number directive] } :=
    ⟨h.request, h.signer, Journal.pending_attemptStarted _ _ _, h.obeys.concat trivial⟩
  exact (startAttempt_ends s directive number run).mono
    (fun _ _ hf => midway_dependsOn_request _ _ _ (by decide) hf hstarted) fun _ _ h => h

theorem turn_sends (hm : Mild touch) (hs : s.context.SignersTouch touch)
    (ht : s.client.transport.Touches HttpRequest.Reads) (hrep : o.body.isRepeatable = true)
    (hgranted : ∀ parameters, directive = .authRetry parameters → Granted s parameters)
    (tally : Tally) (h : Midway touch o none (ReadyFor o directive) run) :
    Ends (turn s (.of o) tally directive) run
      (Turn.Leaves s (fun _ => Midway touch o none (Returnable o))
        (Midway touch o none (Returnable o))) (GivesUp touch o) := by
  unfold turn
  refine ((checkInterruption_footprint s).stays (by decide) h).bind fun _ _ h => ?_
  refine (startAttempt_starts _ h).bind fun _ _ h => ?_
  refine (prepare_restores hrep h).bind fun _ _ h => ?_
  refine Ends.bind (ends_onFailure.mpr ((attempt_sends hm hs ht hgranted _ h).mono
    (fun _ _ h => h) ?_)) fun outcome _ h => ?_
  · exact fun e run h => h.frame (countFailedAttempt_frame run) (by decide)
  · refine (conclude_ends midway_dependsOn_body (by decide) ?_ h).mono (fun _ _ h => h)
      fun _ _ h => h.givesUp
    exact fun failure number _ h =>
      (admits_footprint s (.of o) failure number).keeps midway_dependsOn_body (by decide) h

theorem turns_send (hm : Mild touch) (hs : s.context.SignersTouch touch)
    (ht : s.client.transport.Touches HttpRequest.Reads) (hrep : o.body.isRepeatable = true)
    (h : Midway touch o none (Untouched o) run) :
    Ends (turns s (.of o) {} .start) run (fun _ => Midway touch o none (Returnable o))
      (GivesUp touch o) := by
  refine turns_of_turn (J := Midway touch o none (Returnable o)) (I := fun directive run =>
    (∀ parameters, directive = .authRetry parameters → Granted s parameters) ∧
      Midway touch o none (ReadyFor o directive) run) ?_ ?_ _ _ run
    ⟨fun _ heq => absurd heq (by simp), h⟩
  · rintro tally directive run ⟨hgranted, h⟩
    exact turn_sends hm hs ht hrep hgranted tally h
  · intro directive run hfollows h
    obtain ⟨hgranted, hready⟩ := hfollows.readyFor o
    refine ⟨hgranted, ?_⟩
    rw [hready]
    exact h

theorem attempts_send (hm : Mild touch) (hs : s.context.SignersTouch touch)
    (ht : s.client.transport.Touches HttpRequest.Reads) (hrep : o.body.isRepeatable = true)
    (h : Midway touch o none (· = o) run) :
    Ends (attempts s) run (fun _ => Midway touch o none (Returnable o)) (GivesUp touch o) := by
  have hwhole : Midway touch o none
      (fun r => Whole o o.headers r ∧ Aimed (.start : Directive σ) r) run := by
    refine h.mono fun r hr => ?_
    rw [hr]
    exact ⟨⟨rfl, rfl, rfl, .refl _, rfl⟩, fun _ heq => by cases heq⟩
  unfold attempts
  rw [ends_bind, ends_request, h.request]
  dsimp only
  split
  · next hremarked =>
    refine turns_send hm hs ht hrep (hwhole.mono fun r hr => ⟨hr.1, fun hfalse => ?_⟩)
    rw [hr.1.alike.isRemarked, hremarked] at hfalse
    cases hfalse
  · refine (markBody_restores hrep hwhole).bind fun _ _ h => ?_
    exact turns_send hm hs ht hrep (h.mono fun _ hr => hr.1.untouched)

/-! ### The call -/

theorem rewind_givesUp {e : Error} (h : GivesUp touch o e run) :
    GivesUp touch o e (rewind run) := by
  obtain ⟨new, hnew, hk⟩ := (rewind_frame run).journal
  have hquiet := h.obeys.append_quiet (fun e he _ => by simpa using hk e he)
  rw [← hnew] at hquiet
  refine ⟨hquiet.1, fun hcode hpending hs => ?_⟩
  rw [hquiet.2] at hpending
  obtain ⟨halike, hoverread⟩ := h.overread hcode hpending hs
  obtain ⟨e, hreset⟩ := Body.reset_of_overread hoverread
  have hsame : rewind run = run := by
    unfold rewind
    rw [hreset]
    split <;> rfl
  rw [hsame]
  exact ⟨halike, hoverread⟩

/-- How a call ends whose attempts began with the request `o`. -/
def EndsWell (touch : HttpRequest σ → HttpRequest σ → Prop) (o : HttpRequest σ)
    (result : Except Error (Response α)) (run : Run σ) : Prop :=
  run.journal.Obeys (SendsRestored touch o) ∧ ∀ e, result = .error e → GivesUp touch o e run

theorem call_sends (hm : Mild touch) (hs : s.context.SignersTouch touch)
    (ht : s.client.transport.Touches HttpRequest.Reads) (hrep : o.body.isRepeatable = true)
    (ho : ∀ begun outset, begin s run.request.subject.listener run = .ok () begun →
      setOut s begun = .ok () outset → outset.request = o)
    (h : Midway touch o none (fun _ => True) run) :
    Ends (call s) run (EndsWell touch o) fun _ _ => False := by
  have hframe : ∀ {effects : List Effect} {run run' : Run σ},
      (∀ effect ∈ attemptEffects, effect ∉ effects) → Frame effects run run' →
      Midway touch o none (fun _ => True) run → Midway touch o none (fun _ => True) run' :=
    fun hn => midway_dependsOn [] (fun _ _ _ h => h) _ _ _ hn
  refine call_ends fun begun hbegin hbegun => ?_
  have h := hframe (by decide) hbegun h
  have hfailed : ∀ e run, GivesUp touch o e run → ∀ last, Frame finishEffects run last →
      EndsWell touch o (.error e : Except Error (Response α)) last := by
    intro e run h last hf
    have hlast := h.frame hf (by decide)
    exact ⟨hlast.obeys, fun _ heq => Except.error.inj heq ▸ hlast⟩
  refine conduct_ends (fun e stopped hf => ?_) fun outset hsetOut hf => ?_
  · exact hfailed e stopped (hframe (by decide) hf h).givesUp
  · have houtset := hframe (by decide) hf h
    refine (attempts_send hm hs ht hrep
      ⟨ho begun outset hbegin hsetOut, houtset.signer, houtset.pending, houtset.obeys⟩).mono ?_ ?_
    · intro response conducted h last hlast
      have hquiet := midway_dependsOn_body _ _ _ (by decide) hlast h
      exact ⟨hquiet.obeys, fun e heq => by cases heq⟩
    · intro e run h
      exact hfailed e _ (rewind_givesUp (h.frame (giveCapacityBack_frame s run) (by decide)))

end CallM

namespace Client

variable (c : Client σ) (handlers : Handlers σ α) (context : CallContext σ) (state : ClientState)
  (request : HttpRequest σ) (world : σ)

/-- The request with which the attempts of the call begin: what the caller asked for has been
entered, and the hooks before it is sent have run. -/
def outset? : Option (HttpRequest σ) :=
  match CallM.begin (c.settingAt handlers context request world) request.subject.listener
      (c.runAt state request world) with
  | .error _ _ => none
  | .ok _ begun =>
    match CallM.setOut (c.settingAt handlers context request world) begun with
    | .error _ _ => none
    | .ok _ outset => some outset.request

variable {c handlers context state request world} {touch : HttpRequest σ → HttpRequest σ → Prop}
  {o : HttpRequest σ}

theorem call_sends (hm : Mild touch) (hs : context.SignersTouch touch)
    (ht : c.transport.Touches HttpRequest.Reads) (hrep : o.body.isRepeatable = true)
    (ho : c.outset? handlers context state request world = some o) :
    let report := (c.call handlers context state request world).1
    report.journal.Obeys (SendsRestored touch o) ∧
      ∀ e, report.result = .error e → e.code = .streamReset → report.journal.pending ≠ none →
        o.body.Steady →
        o.body.Alike report.request.body ∧ report.request.body.Overread o.body.rest := by
  cases hshut : state.isShutDown with
  | true =>
    rw [Client.call_of_isShutDown hshut]
    exact ⟨Journal.obeys_nil _, fun _ _ _ hpending => absurd rfl hpending⟩
  | false =>
    have hset : ∀ begun outset,
        CallM.begin (c.settingAt handlers context request world) request.subject.listener
          (c.runAt state request world) = .ok () begun →
        CallM.setOut (c.settingAt handlers context request world) begun = .ok () outset →
        outset.request = o := by
      intro begun outset hbegin hsetOut
      simp only [outset?, hbegin, hsetOut] at ho
      exact Option.some.inj ho
    have hunbound : (c.runAt state request world).binding.signer? = none := rfl
    have hstart : Midway touch o none (fun _ => True) (c.runAt state request world) :=
      ⟨trivial, fun _ hsigner => absurd hsigner (by simp [hunbound]), rfl, Journal.obeys_nil _⟩
    obtain ⟨result, last, ⟨hobeys, hfailed⟩, hreport⟩ :=
      Client.call_reports hshut (CallM.call_sends hm hs ht hrep hset hstart)
    dsimp only
    rw [hreport.result, hreport.request, hreport.journal]
    exact ⟨hobeys, fun e he => (hfailed e he).overread⟩

end Client

/-- A signer is handed the request with which the attempts began, with one header field of its
own, whatever signers have done to header fields and parameters and however much has been read
of the body. The transport gets what the signer has left of it. Where the body cannot go back,
the call ends; of a steady body, only a buffered stream of which more than its limit has been
read cannot. -/
theorem request_restored_for_attempt (c : Client σ) (handlers : Handlers σ α)
    (context : CallContext σ) (state : ClientState) (request : HttpRequest σ) (world : σ)
    {o : HttpRequest σ} (hs : context.SignersTouch HttpRequest.Reads)
    (ht : c.transport.Touches HttpRequest.Reads)
    (ho : c.outset? handlers context state request world = some o)
    (hrep : o.body.isRepeatable = true) :
    let report := (c.call handlers context state request world).1
    (∀ signer offset r, .signing signer offset r ∈ report.journal →
      r.method = o.method ∧ (∃ value, r.headers = o.headers.set CallM.retryHeader value) ∧
        r.parameters = o.parameters ∧ r.body.rest = o.body.rest ∧
        (o.body.Honest → o.body.Sound → r.body.readRemaining.1 = .ok o.body.rest)) ∧
    (∀ r limit inFlight, .dispatched r limit inFlight ∈ report.journal →
      ∃ stamped, Stamped o stamped ∧ stamped.Reads r) ∧
    (∀ e before number directive since, report.result = .error e → e.code = .streamReset →
      report.journal = before ++ .attemptStarted number directive :: since →
      (∀ e ∈ since, e.kind ≠ .attemptStarted ∧ e.kind ≠ .dispatched) → o.body.Steady →
      ∃ replay taken, o.body = .buffered replay ∧ replay.limit < taken.length ∧
        taken ++ report.request.body.rest = o.body.rest) := by
  obtain ⟨hobeys, hoverread⟩ := Client.call_sends mild_reads hs ht hrep ho
  refine ⟨?_, ?_, ?_⟩
  · intro signer offset r hmem
    obtain ⟨before, after, heq⟩ := List.append_of_mem hmem
    obtain ⟨value, hr⟩ := hobeys before _ after heq
    refine ⟨hr.method, ⟨value, hr.headers⟩, hr.parameters, hr.rest, fun hhonest hsound => ?_⟩
    rw [← hr.rest]
    exact Body.readRemaining_of_sound (hr.alike.honest hhonest) (hr.alike.sound hsound)
  · intro r limit inFlight hmem
    obtain ⟨before, after, heq⟩ := List.append_of_mem hmem
    obtain ⟨directive, -, stamped, hstamped, -, htouch⟩ := hobeys before _ after heq
    exact ⟨stamped, hstamped, htouch⟩
  · intro e before number directive since hresult hcode hj hsince hsteady
    have hpending : (c.call handlers context state request world).1.journal.pending ≠ none := by
      rw [hj, Journal.pending_of_started before hsince]
      exact Option.some_ne_none directive
    obtain ⟨halike, hover⟩ := hoverread e hresult hcode hpending hsteady
    exact hover.exists_taken halike

/-! ### Rehearsals -/

/-- How far the attempts have come. -/
inductive Progress where
  | started (redirected : Bool)
  | sent
  deriving DecidableEq

def Event.progress? : Event σ → Option Progress
  | .attemptStarted _ (.redirect _) => some (.started true)
  | .attemptStarted .. => some (.started false)
  | .dispatched .. => some .sent
  | _ => none

theorem Event.kind_of_progress? {e : Event σ} (h : e.progress? = none) :
    e.kind ≠ .attemptStarted ∧ e.kind ≠ .dispatched := by
  cases e with
  | attemptStarted number directive => cases directive <;> simp [progress?] at h
  | dispatched r limit inFlight => simp [progress?] at h
  | _ => simp [kind]

/-- How many bytes a buffered stream keeps. -/
def Body.keeps? : Body → Option Nat
  | .buffered replay => some replay.limit
  | _ => none

theorem Body.eq_buffered_of_keeps? {b : Body} {n : Nat} (h : b.keeps? = some n) :
    ∃ replay, b = .buffered replay ∧ replay.limit = n := by
  cases b with
  | buffered replay => exact ⟨replay, rfl, Option.some.inj h⟩
  | _ => simp [keeps?] at h

def failureCode? : Except Error (Response α) → Option ErrorCode
  | .ok _ => none
  | .error e => some e.code

theorem eq_error_of_failureCode? {result : Except Error (Response α)} {code : ErrorCode}
    (h : failureCode? result = some code) : ∃ e, result = .error e ∧ e.code = code := by
  cases result with
  | ok response => simp [failureCode?] at h
  | error e => exact ⟨e, rfl, Option.some.inj h⟩

/-- The last attempt of the journal has not sent anything. -/
theorem Journal.exists_started {j : Journal σ} {marks : List Progress} {redirected : Bool}
    (h : j.filterMap Event.progress? = marks ++ [.started redirected]) :
    ∃ before number directive since, j = before ++ .attemptStarted number directive :: since ∧
      ∀ e ∈ since, e.kind ≠ .attemptStarted ∧ e.kind ≠ .dispatched := by
  obtain ⟨earlier, rest, rfl, -, hrest⟩ := List.filterMap_eq_append_iff.mp h
  obtain ⟨before, e, since, rfl, -, he, hsince⟩ := List.filterMap_eq_cons_iff.mp hrest
  rw [List.filterMap_eq_nil_iff] at hsince
  cases e with
  | attemptStarted number directive =>
    refine ⟨earlier ++ before, number, directive, since, (List.append_assoc ..).symm, ?_⟩
    exact fun e hmem => Event.kind_of_progress? (hsince e hmem)
  | _ => simp [Event.progress?] at he

namespace Rehearsal

theorem perform_reads (step : Step) (r : HttpRequest Stage) (stage : Stage) :
    r.Reads (perform step r stage).1.2 := by
  obtain ⟨answer, reads, lasts, cancels⟩ := step
  cases reads with
  | none =>
    have hreads := r.body.reads_readRemaining
    unfold perform
    rcases hread : r.body.readRemaining with ⟨e | got, body⟩ <;> rw [hread] at hreads
    · exact ⟨rfl, hreads⟩
    · cases cancels <;> exact ⟨rfl, hreads⟩
  | some n =>
    have hreads := r.body.reads_readUpTo n
    unfold perform
    dsimp only
    rcases hread : r.body.readUpTo n with ⟨e | got, body⟩ <;> rw [hread] at hreads
    · exact ⟨rfl, hreads⟩
    · cases cancels <;> exact ⟨rfl, hreads⟩

theorem transport_reads : transport.Touches HttpRequest.Reads :=
  fun r _ _ => perform_reads _ r _

/-- Adds a parameter at every attempt. -/
def marking : Signer Stage where
  sign := fun r _ stage => ((.ok (), r.addParameter "Signature" "s"), stage)

/-- Every attempt is signed. -/
def marked : CallContext Stage := context (.fixed (some marking)) none

theorem marked_reads : marked.SignersTouch HttpRequest.Reads where
  found := by
    rintro _ _ _ ⟨⟩
    exact fun _ _ _ => ⟨rfl, .refl⟩
  granted := by
    rintro _ _ _ _ _ _ ⟨⟩

/-- The first attempt is not answered, the second one is. -/
def secondTry : List Step := [.timeout, .answering .ok {}]

def paid : HttpRequest Stage := { request with body := .ofString "payload" }

/-- No more than three bytes of the body are kept. -/
def forgetful : HttpRequest Stage :=
  { request with body := .buffered { source := .ofBytes (Bytes.ofString "payload"), limit := 3 } }

end Rehearsal

open Rehearsal in
theorem request_restored_for_second_attempt :
    ((rehearse client expired marked (client.start 0) paid secondTry).journal.countP
        (fun e => e.kind = .signing) = 2 ∧
      ∀ signer offset r, .signing signer offset r ∈
          (rehearse client expired marked (client.start 0) paid secondTry).journal →
        r.parameters.isEmpty = true ∧ r.body.readRemaining.1 = .ok (Bytes.ofString "payload")) ∧
    ∃ taken, 3 < taken.length ∧
      taken ++ (rehearse client expired marked (client.start 0) forgetful
        secondTry).request.body.rest = Bytes.ofString "payload" := by
  refine ⟨⟨?_, ?_⟩, ?_⟩
  · simp only [Rehearsal.rehearse, Client.call, CallM.call, CallM.conduct,
      CallM.attempts_eq_turnsIn]
    decide +kernel
  · have hout : (client.outset? (handlers expired) marked (client.start 0) paid
        { steps := secondTry }).map (fun o => (o.body.isRepeatable, o.parameters.isEmpty,
          o.body.rest, o.body.source?.isNone)) =
        some (true, true, Bytes.ofString "payload", true) := by
      decide +kernel
    obtain ⟨o, ho, hfacts⟩ := Option.map_eq_some_iff.mp hout
    simp only [Prod.mk.injEq, Option.isNone_iff_eq_none] at hfacts
    obtain ⟨hrep, hempty, hrest, hsource⟩ := hfacts
    have hsource' : ∀ source, o.body.source? ≠ some source := by simp [hsource]
    intro signer offset r hmem
    obtain ⟨-, -, hparameters, -, hread⟩ := (request_restored_for_attempt client (handlers expired)
      marked (client.start 0) paid { steps := secondTry } marked_reads transport_reads ho hrep).1
      signer offset r hmem
    rw [hparameters, ← hrest]
    exact ⟨hempty, hread (fun source h => absurd h (hsource' source))
      fun source h => absurd h (hsource' source)⟩
  · have hout : (client.outset? (handlers expired) marked (client.start 0) forgetful
        { steps := secondTry }).map (fun o => (o.body.isRepeatable, o.body.rest, o.body.keeps?)) =
        some (true, Bytes.ofString "payload", some 3) := by
      decide +kernel
    have hmarks : (rehearse client expired marked (client.start 0) forgetful
        secondTry).journal.filterMap Event.progress? =
          [.started false, .sent] ++ [.started false] := by
      simp only [Rehearsal.rehearse, Client.call, CallM.call, CallM.conduct,
        CallM.attempts_eq_turnsIn]
      decide +kernel
    have hcode : failureCode? (rehearse client expired marked (client.start 0) forgetful
        secondTry).result = some .streamReset := by
      simp only [Rehearsal.rehearse, Client.call, CallM.call, CallM.conduct,
        CallM.attempts_eq_turnsIn]
      decide +kernel
    obtain ⟨o, ho, hfacts⟩ := Option.map_eq_some_iff.mp hout
    simp only [Prod.mk.injEq] at hfacts
    obtain ⟨hrep, hrest, hlimit⟩ := hfacts
    obtain ⟨before, number, directive, since, hj, hsince⟩ := Journal.exists_started hmarks
    obtain ⟨e, hresult, hcode⟩ := eq_error_of_failureCode? hcode
    obtain ⟨stream, hstream, hthree⟩ := Body.eq_buffered_of_keeps? hlimit
    have hsteady : o.body.Steady := by
      rw [hstream]
      trivial
    obtain ⟨replay, taken, hbody, htaken, happend⟩ :=
      (request_restored_for_attempt client (handlers expired) marked (client.start 0) forgetful
        { steps := secondTry } marked_reads transport_reads ho hrep).2.2 e before number directive
        since hresult hcode hj hsince hsteady
    obtain rfl := Body.buffered.inj (hstream.symm.trans hbody)
    exact ⟨taken, hthree ▸ htaken, hrest ▸ happend⟩

end ServiceCall
