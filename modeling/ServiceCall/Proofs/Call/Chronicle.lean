import ServiceCall.Proofs.Call.Deeds

/-!
The chronicle of a call. Each action of a call tells what it does, so the journal of a call leads
from the request and the world that it has found to those that it leaves. A milestone in a journal
has been told to its hearer at that point, and a signature has been made by the signer of which the
journal speaks.
-/

namespace ServiceCall

variable {σ α : Type}

namespace CallM

variable {s : CallSetting σ α} {host : Option (MilestoneListener σ)}

/-! ### Milestones and time -/

theorem announceTo_ends {listener : Option (MilestoneListener σ)} {event : Milestone} {run : Run σ}
    (h : event.hearer host run.request = listener) :
    Ends (announceTo listener event) run (fun _ => Recounts s host run)
      fun _ => Recounts s host run := by
  subst h
  exact (ends_ok_iff (announceTo_eq run _ event)).mpr (.asked (.listener event))

theorem announceTo_does {event : Milestone} (h : ∀ r, event.hearer host r = host) :
    Does s host (announceTo host event) := ⟨fun run => announceTo_ends (h run.request)⟩

theorem announce_does {event : Milestone} (h : ∀ r, event.hearer host r = r.subject.listener) :
    Does s host (announce event) := ⟨fun run => announceTo_ends (h run.request)⟩

theorem readClock_does : Does s host (readClock s) := .ask (fun _ => .clock) fun _ => .pure _

theorem readFlag_does : Does s host (readFlag s) := .ask (fun _ => .flag) fun _ => .pure _

theorem timeIsUp_does : Does s host (timeIsUp s) := by
  unfold timeIsUp
  split
  · exact .bind readClock_does fun _ => .pure _
  · exact .pure _

/-- A check either ends the call or lets it go on. -/
theorem check_does {β : Type} {c : Prop} [Decidable c] (name : HttpRequest σ → Error)
    {act : CallM σ β} (h : Does s host act) :
    Does s host (if c then (do let r ← request; throw (name r); act) else act) :=
  .ite (.bind .request fun _ => .bind (.throw _) fun _ => h) h

theorem lastCheck_does {c : Prop} [Decidable c] (name : HttpRequest σ → Error) :
    Does s host
      (if c then (do let r ← request; throw (name r)) else pure () : CallM σ Unit) :=
  .ite (.bind .request fun _ => .throw _) (.pure ())

theorem checkInterruption_does : Does s host (checkInterruption s) :=
  .bind timeIsUp_does fun _ => check_does (deadlineExceeded s) <|
    .bind readFlag_does fun _ => lastCheck_does interrupted

/-! ### Before the exchange -/

theorem loadCredentials_does : Does s host (loadCredentials s) := by
  refine ⟨fun run => ?_⟩
  unfold loadCredentials
  rw [ends_bind, ends_request]
  split
  · exact .refl run
  · next source named =>
    exact Does.ends_tell (.credentials named) fun _ => .bind (.ofExcept _ _) fun _ => .pure _

theorem planWait_does (delay : Duration) : Does s host (planWait s delay) := by
  unfold planWait
  split
  · exact .bind readClock_does fun _ => .pure _
  · exact .pure _

theorem pauseAfter_does (failure : Error) (number : Nat) :
    Does s host (pauseAfter s failure number) := by
  refine .bind .request fun r => .ask (fun _ => .backoff _) fun delay =>
    .bind (.update fun _ => ⟨rfl, rfl⟩) fun _ => .bind (planWait_does delay) fun plan => ?_
  refine .ask (fun _ => .pause _) fun cancelled => .bind timeIsUp_does fun _ => ?_
  exact check_does (deadlineExceeded s) <| check_does interrupted <|
    lastCheck_does (deadlineExceeded s)

theorem beginAgain_does (directive : Directive σ) (number : Nat) :
    Does s host (beginAgain s directive number) := by
  unfold beginAgain
  refine .ite (.pure ()) (.bind (announce_does fun _ => rfl) fun _ => ?_)
  split
  · exact pauseAfter_does _ number
  · exact .pure ()

theorem approach_does (directive : Directive σ) (number : Nat) :
    Does s host (approach s directive number) :=
  .bind checkInterruption_does fun _ => .bind loadCredentials_does fun _ =>
    .bind (beginAgain_does directive number) fun _ => .pure _

theorem stampHeader_does (name value : String) : Does s host (stampHeader name value) := by
  refine ⟨fun run => ?_⟩
  unfold stampHeader
  rw [ends_bind, ends_request, ends_bind, ends_ofExcept]
  cases h : run.request.setHeader name value with
  | ok stamped =>
    have hsubject : stamped.subject = run.request.subject :=
      setHeader_spares h (by decide : RequestPart.subject ≠ .headers)
    exact .of_inward rfl hsubject rfl
  | error e => exact .refl run

theorem stampRetryHeader_does (number : Nat) :
    Does s host (stampRetryHeader number) := .bind .get fun _ => stampHeader_does _ _

theorem bindSigner_does (directive : Directive σ) : Does s host (bindSigner s directive) := by
  have hbind : ∀ new : BoundSigner σ, Does s host (do
      record (.signerBound new)
      modify fun run => { run with binding := new }
      return new.signer?) := fun new =>
    .bind (.record rfl) fun _ => .bind (.update fun _ => ⟨rfl, rfl⟩) fun _ => .pure _
  unfold bindSigner
  refine .bind .get fun run => ?_
  dsimp only
  split
  · exact .bind (.pure _) fun new => hbind new
  · exact .tell (fun _ => .signers _) fun _ => .bind (.pure _) fun new => hbind new

/-- The signer is given the request of which the journal speaks. -/
theorem sign_does (signer : Signer σ) (credentials : Credentials) :
    Does s host (sign signer credentials) := by
  have hsign : ∀ offset : Int, Does s host (do
      record (.signing signer offset (← request))
      let answer ← performOnRequest fun r => signer.sign r credentials
      let r ← request
      ofExcept (.signing r.method r.loggedUri) answer) := by
    intro offset
    refine ⟨fun run => ?_⟩
    rw [ends_bind, ends_request, ends_bind, ends_record, ends_bind, ends_performOnRequest,
      ends_bind, ends_request]
    have hdeed : Recounts s host run { run with
        world := (signer.sign run.request credentials run.world).2
        request := (signer.sign run.request credentials run.world).1.2
        journal := run.journal ++ [.signing signer offset run.request] } :=
      .of_deed (.signed signer credentials offset) rfl
    exact ((Does.ofExcept _ _).ends _).mono (fun _ _ h => hdeed.trans h) fun _ _ h => hdeed.trans h
  -- The call itself enters the clock offset beforehand.
  unfold sign
  exact .bind .get fun run => .ite (hsign _) (.bind (.revise fun _ => rfl) fun _ => hsign _)

theorem signWith_does (signer? : Option (Signer σ)) (credentials? : Option Credentials) :
    Does s host (signWith signer? credentials?) := by
  unfold signWith
  split
  · exact sign_does _ _
  · exact .pure ()

/-! ### The exchange -/

theorem exchangeLimit_does : Does s host (exchangeLimit s) := by
  unfold exchangeLimit
  split
  · exact .pure _
  · refine .bind readClock_does fun now => ?_
    split
    · exact .pure _
    · exact .bind .request fun _ => .throw _

theorem dispatch_does (limit : Option Duration) : Does s host (dispatch s limit) := by
  refine ⟨fun run => ?_⟩
  unfold dispatch
  rw [ends_bind, ends_request, ends_bind, ends_get, ends_bind, ends_record, ends_performOnRequest]
  exact .of_deed (.sent limit run.client.metrics.inFlight) rfl

/-! ### The answer -/

/-- A hook in the list has the place with which it is counted. -/
theorem getElem?_of_mem_places {hook : Hook σ} {place : Nat}
    (h : (hook, place) ∈ s.context.hooks.zipIdx) : s.context.hooks[place]? = some hook :=
  List.mk_mem_zipIdx_iff_getElem?.mp h

theorem beforeUnmarshal_does (r : HttpResponse) : Does s host (beforeUnmarshal s r) := by
  refine .foldlM (fun named hnamed r => ?_) r
  have hplace := getElem?_of_mem_places (List.mem_reverse.mp hnamed)
  exact .tellOfRequest fun _ => .beforeUnmarshal hplace r

theorem remember_does (metadata : Option Metadata) : Does s host (remember metadata) := by
  unfold remember
  split
  · exact .update fun _ => ⟨rfl, rfl⟩
  · exact .pure ()

theorem returnCapacity_does : Does s host (returnCapacity s) :=
  .bind .get fun _ => .bind (.record rfl) fun _ => .update fun _ => ⟨rfl, rfl⟩

theorem complete_does (status : Status) (handled : Handled α) (r : HttpResponse) :
    Does s host (complete s status handled r) :=
  .bind (remember_does _) fun _ => .bind returnCapacity_does fun _ =>
    .bind (announce_does fun _ => rfl) fun _ => .pure _

variable {authAllowed : Bool}

theorem handleResult_does (status : Status) (reason : Option String) (r : HttpResponse) :
    Does s host (handleResult s status reason r : CallM σ (Outcome σ α authAllowed)) := by
  refine .tell (fun _ => .handler r) fun answer => ?_
  split
  · exact .bind (complete_does _ _ _) fun _ => .pure _
  · exact .throw _
  · exact .pure _
  · exact .throw _

theorem onSuccess_does (r : HttpResponse) :
    Does s host (onSuccess s r : CallM σ (Outcome σ α authAllowed)) := by
  have hread : ∀ r : HttpResponse, Does s host (do
      handleResult s r.status r.reason (← beforeUnmarshal s r) :
        CallM σ (Outcome σ α authAllowed)) := fun r =>
    .bind (beforeUnmarshal_does r) fun _ => handleResult_does _ _ _
  unfold onSuccess
  dsimp only
  split
  · exact .pure _
  · refine .bind (announce_does fun _ => rfl) fun _ => ?_
    split
    · exact .bind (announce_does fun _ => rfl) fun _ => hread _
    · exact hread _

theorem onRedirect_does (location : String) :
    Does s host (onRedirect location : CallM σ (Outcome σ α authAllowed)) := by
  refine .bind .request fun r => .ite (.pure _) ?_
  split
  · exact .pure _
  · exact .throw _

theorem readFailure_does (r : HttpResponse) : Does s host (readFailure s r) :=
  .bind (.perform fun _ => .errorHandler r) fun _ => .bind .request fun _ => .pure _

theorem countThrottle_does (e : ServiceError) : Does s host (countThrottle s e) :=
  .ite (.bind (.count _) fun _ => .countForClient _) (.pure ())

theorem correctClock_does (headers : Headers) (e : ServiceError) :
    Does s host (correctClock s headers e) := by
  refine .ite (.ask (fun _ => .timeOfDay headers e) fun now => .bind .get fun run =>
    .bind (.update fun _ => ⟨rfl, rfl⟩) fun _ => ?_) (.pure ())
  exact .ite (.pure ()) (.bind (.revise fun _ => rfl) fun _ => .countForClient _)

/-- The rule is asked about the request as it is by then. -/
theorem askAuthRetry_does (e : ServiceError) :
    Does s host (askAuthRetry s e : CallM σ (Outcome σ α authAllowed)) := by
  refine ⟨fun run => ?_⟩
  unfold askAuthRetry
  split
  · exact .refl run
  · next rule named =>
    rw [ends_bind, ends_request]
    split
    · refine Does.ends_ask (.authRetry named e) fun answer => ?_
      split
      · exact .pure _
      · exact .pure _
    · exact .refl run

theorem onFailureResponse_does (r : HttpResponse) :
    Does s host (onFailureResponse s r : CallM σ (Outcome σ α authAllowed)) := by
  refine .bind (readFailure_does r) fun answer => ?_
  split
  · exact .ite (.pure _) (.throw _)
  · exact .bind (countThrottle_does _) fun _ => .bind (correctClock_does _ _) fun _ =>
      askAuthRetry_does _

theorem onResponse_does (r : HttpResponse) :
    Does s host (onResponse s r : CallM σ (Outcome σ α authAllowed)) := by
  refine .bind (announce_does fun _ => rfl) fun _ => .bind (.record rfl) fun _ =>
    .bind (.count _) fun _ => .ite (onSuccess_does r) ?_
  split
  · exact onRedirect_does _
  · exact onFailureResponse_does r

theorem onNoResponse_does (e : TransportError) (limit : Option Duration) :
    Does s host (onNoResponse s e limit : CallM σ (Outcome σ α authAllowed)) :=
  .bind timeIsUp_does fun _ => check_does (deadlineExceeded s) (.bind .request fun _ => .pure _)

theorem exchange_does : Does s host (exchange s : CallM σ (Outcome σ α authAllowed)) := by
  refine .bind exchangeLimit_does fun limit => .bind (announce_does fun _ => rfl) fun _ =>
    .bind (dispatch_does limit) fun answer => ?_
  split
  · exact onResponse_does _
  · exact onNoResponse_does _ limit

theorem attempt_does (directive : Directive σ) (number : Nat) :
    Does s host (attempt s directive number : CallM σ (Outcome σ α authAllowed)) :=
  .bind (approach_does directive number) fun _ => .bind (stampRetryHeader_does number) fun _ =>
    .bind (bindSigner_does directive) fun _ => .bind (signWith_does _ _) fun _ => exchange_does

/-! ### The turns -/

theorem replaceBody_does (move : Body → Except IoError Body) : Does s host (do
    let body ← ofExcept .streamReset (move (← request).body)
    revise fun r => { r with body }) :=
  .bind .request fun _ => .bind (.ofExcept _ _) fun _ => .revise fun _ => rfl

theorem direct_does (directive : Directive σ) : Does s host (direct directive) := by
  unfold direct
  split
  · split
    · exact .revise fun _ => rfl
    · exact .throw _
  · split
    · exact .revise fun _ => rfl
    · exact .pure ()
  · exact .pure ()
  · exact .pure ()

theorem prepare_does (o : Origin) (directive : Directive σ) :
    Does s host (prepare o directive) := by
  have hmark : Does s host (do if (← request).body.isRemarked then markBody) :=
    .bind .request fun r => .ite (replaceBody_does Body.mark) (.pure ())
  unfold prepare
  exact .ite hmark (.bind (.revise fun _ => rfl) fun _ =>
    .bind (replaceBody_does Body.reset) fun _ => .bind (direct_does directive) fun _ => hmark)

theorem takeCapacity_does : Does s host (takeCapacity s) := by
  refine .bind .get fun run => .bind (.update fun _ => ⟨rfl, rfl⟩) fun _ => .ite ?_ ?_
  · exact .bind (.record rfl) fun _ => .bind (.update fun _ => ⟨rfl, rfl⟩) fun _ =>
      .bind (.count _) fun _ => .pure _
  · exact .bind (.record rfl) fun _ => .bind (.countForClient _) fun _ => .pure _

theorem askCondition_does (failed : FailedAttempt σ) : Does s host (askCondition s failed) :=
  .ask (fun _ => .condition failed) fun _ => .pure _

theorem admits_does (o : Origin) (failure : Error) (number : Nat) :
    Does s host (admits s o failure number) := by
  have hask : Does s host (do
      askCondition s {
        request := (← request).subject
        error := failure
        attempts := number
        retries := number - 1
        repeatable := o.repeatable }) := .bind .request fun _ => askCondition_does _
  unfold admits
  exact .ite (.pure _) (.ite hask (.bind takeCapacity_does fun _ => .ite hask (.pure _)))

theorem startAttempt_does (directive : Directive σ) (number : Nat) :
    Does s host (startAttempt s directive number) :=
  .bind (.record rfl) fun _ => .bind (.count _) fun _ => .countForClient _

theorem conclude_does (o : Origin) (tally : Tally)
    (outcome : Outcome σ α (decide (tally.authRetries < s.limits.authRetries))) :
    Does s host (conclude s o tally outcome) := by
  cases outcome with
  | success response => exact .pure _
  | redirect target =>
    dsimp only [conclude]
    split
    · exact .bind (.countForClient _) fun _ => .pure _
    · exact .bind .request fun _ => .throw _
  | authRetry parameters allowed => exact .pure _
  | retryable failure =>
    refine .bind (.count _) fun _ => ?_
    split
    · exact .bind (admits_does o failure _) fun _ =>
        .ite (.bind (.countForClient _) fun _ => .pure _) (.throw _)
    · exact .throw _

theorem turn_does (o : Origin) (tally : Tally) (directive : Directive σ) :
    Does s host (turn s o tally directive) :=
  .bind checkInterruption_does fun _ => .bind (startAttempt_does directive _) fun _ =>
    .bind (prepare_does o directive) fun _ =>
      .bind (.onFailure (attempt_does directive _) fun _ => .of_inward rfl rfl rfl) fun _ =>
        conclude_does o tally _

/-- What has been told of the turns so far leads to where the next one starts. -/
theorem turns_does (o : Origin) (tally : Tally) (directive : Directive σ) :
    Does s host (turns s o tally directive) := by
  refine ⟨fun run => turns_ends (I := fun _ _ => Recounts s host run) ?_ tally directive run
    (.refl run)⟩
  intro tally directive run' htold
  refine ((turn_does o tally directive).ends run').mono (fun t _ h => ?_) fun _ _ h => htold.trans h
  cases t <;> exact htold.trans h

/-! ### Around the attempts -/

theorem stampAll_does (fields : List (String × String)) : Does s host (stampAll fields) := by
  induction fields with
  | nil => exact .pure ()
  | cons field fields ih => exact .bind (stampHeader_does _ _) fun _ => ih

theorem enrich_does : Does s host (enrich s) := by
  refine .bind .request fun _ => .bind (stampAll_does _) fun _ => .bind (.revise fun r => ?_)
    fun _ => .bind (.perform fun _ => .invocationId) fun _ => .bind (stampHeader_does _ _) fun _ =>
      stampHeader_does _ _
  exact addCustomParameters_spares _ r (by decide : RequestPart.subject ≠ .parameters)

theorem beforeSend_does : Does s host (beforeSend s) := by
  refine .forM fun named hnamed => ⟨fun run => ?_⟩
  rw [ends_bind, ends_record, ends_performOnRequest]
  exact .of_deed (.hooked (getElem?_of_mem_places hnamed)) rfl

theorem attempts_does : Does s host (attempts s) :=
  .bind .request fun _ => .ite (turns_does _ _ _) <|
    .bind (replaceBody_does Body.mark) fun _ => turns_does _ _ _

theorem giveCapacityBack_recounts (run : Run σ) : Recounts s host run (giveCapacityBack s run) := by
  unfold giveCapacityBack
  split
  · have hdeed : Deed s host run.scene (some (.capacityReturned s.retryCost)) run.scene :=
      .inward (by simp [Event.isInward]) rfl rfl
    exact .of_deed hdeed rfl
  · exact .refl run

theorem rewind_recounts (run : Run σ) : Recounts s host run (rewind run) := by
  unfold rewind
  split
  · split
    · exact .of_inward rfl rfl rfl
    · exact .refl run
  · exact .refl run

theorem conduct_does : Does s host (conduct s) :=
  .bind enrich_does fun _ => .bind beforeSend_does fun _ =>
    .onFailure attempts_does fun run => (giveCapacityBack_recounts run).trans (rewind_recounts _)

theorem finish_does (result : Except Error (Response α)) : Does s host (finish s host result) := by
  cases result with
  | ok response =>
    refine .bind (.forM fun named hnamed => .tellOfRequest fun _ => .afterResponse ?_ _ _) fun _ =>
      .bind (announceTo_does fun _ => rfl) fun _ => .bind .get fun _ => .countForClient _
    exact getElem?_of_mem_places (List.mem_reverse.mp hnamed)
  | error e =>
    refine .bind (.forM fun named hnamed => .tellOfRequest fun _ => .afterError ?_ e) fun _ =>
      .bind (announceTo_does fun _ => rfl) fun _ => .countForClient _
    exact getElem?_of_mem_places (List.mem_reverse.mp hnamed)

theorem collect_does : Does s host (collect s) := by
  refine ⟨fun run => (ends_ok_iff (collect_eq s run)).mpr ?_⟩
  exact Does.ends_quiet (.collector run.metrics)

theorem begin_does : Does s host (begin s host) := by
  refine .bind (.countForClient _) fun _ => .bind (announceTo_does fun _ => rfl) fun _ =>
    .bind .request fun r => ?_
  split
  · exact announceTo_does fun _ => rfl
  · exact .pure ()

/-- The host of a call is the listener of its request, whatever the request becomes. -/
theorem call_recounts (s : CallSetting σ α) (run : Run σ) :
    Ends (call s) run (fun _ => Recounts s run.request.subject.listener run)
      fun _ => Recounts s run.request.subject.listener run := by
  unfold call
  rw [ends_bind, ends_request]
  refine Does.ends ?_ run
  exact .bind begin_does fun _ => .bind (.settle conduct_does) fun result =>
    .bind (finish_does result) fun _ => .bind collect_does fun _ =>
      .bind (.countForClient _) fun _ => .pure _

end CallM

/-! ### From the request to the result -/

namespace Client

variable {c : Client σ} {handlers : Handlers σ α} {context : CallContext σ} {state : ClientState}
  {request : HttpRequest σ} {world : σ} {before after : Journal σ}

/-- The journal of a call leads from what the call has found to what it leaves. -/
theorem deeds_of_call (hs : state.isShutDown = false) :
    let called := c.call handlers context state request world
    Deeds (c.settingAt handlers context request world) request.subject.listener
      (c.runAt state request world).scene called.1.journal ⟨called.1.request, called.2⟩ := by
  have htold := CallM.call_recounts (c.settingAt handlers context request world)
    (c.runAt state request world)
  unfold CallM.Ends settingAt runAt at htold
  unfold settingAt runAt
  simp only [Client.call, hs, Bool.false_eq_true, if_false]
  rcases hnow : c.surroundings.now world with ⟨now, woken⟩
  rw [hnow] at htold
  dsimp only at htold ⊢
  split at htold
  · next result last heq =>
    rw [heq]
    exact htold.deeds rfl
  · next e last heq =>
    rw [heq]
    exact htold.deeds rfl

/-- Whatever the journal of a call tells has been done by then, after all that it tells before. -/
theorem exists_deed_of_call {e : Event σ}
    (h : (c.call handlers context state request world).1.journal = before ++ e :: after) :
    let s := c.settingAt handlers context request world
    let host := request.subject.listener
    let called := c.call handlers context state request world
    ∃ here there, Deeds s host (c.runAt state request world).scene before here ∧
      Deed s host here (some e) there ∧ Deeds s host there after ⟨called.1.request, called.2⟩ := by
  by_cases hs : state.isShutDown = true
  · rw [call_of_isShutDown hs] at h
    simp at h
  · have hdeeds :=
      @deeds_of_call σ α c handlers context state request world (eq_false_of_ne_true hs)
    exact Deeds.exists_deed (h ▸ hdeeds)

/-- A milestone in the journal has been told to its hearer at that point of the call. -/
theorem milestone_of_call {event : Milestone}
    (h : (c.call handlers context state request world).1.journal =
      before ++ .milestone event :: after) :
    let s := c.settingAt handlers context request world
    let host := request.subject.listener
    let called := c.call handlers context state request world
    ∃ here, Deeds s host (c.runAt state request world).scene before here ∧
      Deeds s host ⟨here.request, (event.tellTo (event.hearer host here.request) here.world).2⟩
        after ⟨called.1.request, called.2⟩ := by
  obtain ⟨here, there, hbefore, hdeed, hafter⟩ := exists_deed_of_call h
  exact ⟨here, hbefore, hdeed.of_milestone ▸ hafter⟩

/-- A signature in the journal has been made by the signer at that point of the call, on the request
that the journal shows, and the call has gone on with what the signer made of it. -/
theorem signature_of_call {signer : Signer σ} {offset : Int} {r : HttpRequest σ}
    (h : (c.call handlers context state request world).1.journal =
      before ++ .signing signer offset r :: after) :
    let s := c.settingAt handlers context request world
    let host := request.subject.listener
    let called := c.call handlers context state request world
    ∃ here credentials, Deeds s host (c.runAt state request world).scene before here ∧
      r = here.request ∧
        Deeds s host ⟨(signer.sign r credentials here.world).1.2,
          (signer.sign r credentials here.world).2⟩ after ⟨called.1.request, called.2⟩ := by
  obtain ⟨here, there, hbefore, hdeed, hafter⟩ := exists_deed_of_call h
  obtain ⟨hr, credentials, rfl⟩ := hdeed.of_signing
  exact ⟨here, credentials, hbefore, hr, hafter⟩

end Client

end ServiceCall
