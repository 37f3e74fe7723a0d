import ServiceCall.Proofs.Call.Footprint

/-! The footprints of the actions of which a call is made. -/

namespace ServiceCall.CallM

open Effect

variable {σ α : Type} {effects : List Effect}

/-! ### Milestones and time -/

theorem announceTo_footprint (listener : Option (MilestoneListener σ)) (event : Milestone) :
    Footprint [records .milestone] (announceTo listener event) := by
  unfold announceTo
  refine .bind (.record .milestone rfl (by decide)) fun _ => ?_
  cases listener with
  | none => exact .pure ()
  | some tell => exact .perform (tell event)

theorem announce_footprint (event : Milestone) :
    Footprint [records .milestone] (announce event : CallM σ Unit) :=
  .bind .request fun r => announceTo_footprint r.subject.listener event

theorem readClock_footprint (s : CallSetting σ α) :
    Footprint [records .clockRead] (readClock s) :=
  .bind (.perform _) fun _ => .bind (.record .clockRead rfl (by decide)) fun _ => .pure _

theorem readFlag_footprint (s : CallSetting σ α) :
    Footprint [records .cancelRead] (readFlag s) :=
  .bind (.perform _) fun _ => .bind (.record .cancelRead rfl (by decide)) fun _ => .pure _

theorem timeIsUp_footprint (s : CallSetting σ α) :
    Footprint [records .clockRead] (timeIsUp s) := by
  unfold timeIsUp
  split
  · exact .bind (readClock_footprint s) fun _ => .pure _
  · exact .pure _

/-- A check either ends the call or lets it go on. -/
theorem check_footprint {β : Type} {c : Prop} [Decidable c] {name : HttpRequest σ → Error}
    {act : CallM σ β} (code : ErrorCode) (hc : ∀ r, (name r).code = code)
    (h : fails code ∈ effects) (hact : Footprint effects act) :
    Footprint effects
      (if c then (do let r ← CallM.request; throw (name r); act) else act) :=
  .ite (.bind .request fun r => .bind (.throw code (hc r) h) fun _ => hact) hact

theorem lastCheck_footprint {c : Prop} [Decidable c] {name : HttpRequest σ → Error}
    (code : ErrorCode) (hc : ∀ r, (name r).code = code) (h : fails code ∈ effects) :
    Footprint effects
      (if c then (do let r ← CallM.request; throw (name r)) else pure () : CallM σ Unit) :=
  .ite (.bind .request fun r => .throw code (hc r) h) (.pure ())

theorem checkInterruption_footprint (s : CallSetting σ α) :
    Footprint [records .clockRead, records .cancelRead, fails .deadlineExceeded,
      fails .interrupted] (checkInterruption s) := by
  unfold checkInterruption
  refine .bind ((timeIsUp_footprint s).mono (by decide)) fun _ =>
    check_footprint .deadlineExceeded (fun _ => rfl) (by decide) ?_
  exact .bind ((readFlag_footprint s).mono (by decide)) fun _ =>
    lastCheck_footprint .interrupted (fun _ => rfl) (by decide)

/-! ### Before the exchange -/

theorem loadCredentials_footprint (s : CallSetting σ α) :
    Footprint [records .credentialsAsked, fails .credentials] (loadCredentials s) := by
  unfold loadCredentials
  refine .bind .request fun r => ?_
  split
  · exact .pure _
  · exact .bind (.record .credentialsAsked rfl (by decide)) fun _ => .bind (.perform _) fun _ =>
      .bind (.ofExcept .credentials (fun _ => rfl) (by decide)) fun _ => .pure _

theorem planWait_footprint (s : CallSetting σ α) (delay : Duration) :
    Footprint [records .clockRead] (planWait s delay) := by
  unfold planWait
  split
  · exact .bind (readClock_footprint s) fun _ => .pure _
  · exact .pure _

theorem pauseAfter_footprint (s : CallSetting σ α) (failure : Error) (number : Nat) :
    Footprint [records .backoffAsked, lastBackoff, records .clockRead, records .paused,
      fails .deadlineExceeded, fails .interrupted] (pauseAfter s failure number) := by
  unfold pauseAfter
  refine .bind .request fun r => .bind (.perform _) fun delay =>
    .bind (.record .backoffAsked rfl (by decide)) fun _ => .bind (.update ?_) fun _ => ?_
  · refine fun run => .of_journal_eq rfl fun effect hn => ?_
    cases effect <;> first | exact RequestPart.spares_refl _ _ | rfl | contradiction | trivial
  · refine .bind ((planWait_footprint s delay).mono (by decide)) fun plan => ?_
    refine .bind (.perform _) fun _ => .bind (.record .paused rfl (by decide)) fun _ =>
      .bind ((timeIsUp_footprint s).mono (by decide)) fun _ => ?_
    exact check_footprint .deadlineExceeded (fun _ => rfl) (by decide) <|
      check_footprint .interrupted (fun _ => rfl) (by decide) <|
        lastCheck_footprint .deadlineExceeded (fun _ => rfl) (by decide)

theorem beginAgain_footprint (s : CallSetting σ α) (directive : Directive σ) (number : Nat) :
    Footprint [records .milestone, records .backoffAsked, lastBackoff, records .clockRead,
      records .paused, fails .deadlineExceeded, fails .interrupted]
      (beginAgain s directive number) := by
  unfold beginAgain
  refine .ite (.pure ()) (.bind ((announce_footprint _).mono (by decide)) fun _ => ?_)
  split
  · exact (pauseAfter_footprint s _ number).mono (by decide)
  · exact .pure ()

def approachEffects : List Effect :=
  [records .clockRead, records .cancelRead, records .credentialsAsked, records .milestone,
    records .backoffAsked, records .paused, lastBackoff, fails .deadlineExceeded,
    fails .interrupted, fails .credentials]

theorem approach_footprint (s : CallSetting σ α) (directive : Directive σ) (number : Nat) :
    Footprint approachEffects (approach s directive number) :=
  .bind ((checkInterruption_footprint s).mono (by decide)) fun _ =>
    .bind ((loadCredentials_footprint s).mono (by decide)) fun _ =>
      .bind ((beginAgain_footprint s directive number).mono (by decide)) fun _ => .pure _

/-- Only the header fields of a request change when a field is set. -/
theorem setHeader_spares {r r' : HttpRequest σ} {name value : String}
    (h : r.setHeader name value = .ok r') {part : RequestPart} (hp : part ≠ .headers) :
    part.Spares r r' := by
  unfold HttpRequest.setHeader at h
  split at h
  · exact absurd h (by simp)
  · split at h
    · exact absurd h (by simp)
    · obtain rfl := Except.ok.inj h
      cases part <;> first | rfl | contradiction

def stampEffects : List Effect :=
  [.request .headers, fails .invalidHeaderName, fails .invalidHeaderValue]

theorem stampHeader_footprint (name value : String) :
    Footprint stampEffects (stampHeader name value : CallM σ Unit) := by
  refine ⟨fun run => ?_⟩
  unfold stampHeader
  refine ends_bind.mpr ?_
  rw [ends_request]
  cases h : run.request.setHeader name value with
  | ok stamped =>
    refine Frame.of_journal_eq rfl fun effect hn => ?_
    cases effect with
    | request part => exact setHeader_spares h fun hp => hn (hp ▸ .head _)
    | _ => first | rfl | trivial
  | error e =>
    unfold HttpRequest.setHeader at h
    refine ⟨.refl _ run, ?_⟩
    split at h
    · exact Except.error.inj h ▸ .tail _ (.head _)
    · split at h
      · exact Except.error.inj h ▸ .tail _ (.tail _ (.head _))
      · exact absurd h (by simp)

theorem stampRetryHeader_footprint (number : Nat) :
    Footprint stampEffects (stampRetryHeader number : CallM σ Unit) :=
  .bind .get fun _ => stampHeader_footprint _ _

theorem bindSigner_footprint (s : CallSetting σ α) (directive : Directive σ) :
    Footprint [records .signerAsked, records .signerBound, binding] (bindSigner s directive) := by
  unfold bindSigner
  have hbind : ∀ new : BoundSigner σ,
      Footprint [records .signerAsked, records .signerBound, binding]
        (do
          record (.signerBound new)
          modify fun run => { run with binding := new }
          return new.signer? : CallM σ (Option (Signer σ))) := by
    intro new
    refine .bind (.record .signerBound rfl (by decide)) fun _ => .bind (.update ?_) fun _ => .pure _
    refine fun run => .of_journal_eq rfl fun effect hn => ?_
    cases effect <;> first | exact RequestPart.spares_refl _ _ | rfl | contradiction | trivial
  refine .bind .get fun run => ?_
  dsimp only
  split
  · exact .bind (.pure _) fun new => hbind new
  · exact .bind (.record .signerAsked rfl (by decide)) fun _ => .bind (.perform _) fun _ =>
      .bind (.pure _) fun new => hbind new

def signEffects : List Effect := anyRequest ++ [records .signing, fails .signing]

theorem sign_footprint (signer : Signer σ) (credentials : Credentials) :
    Footprint signEffects (sign signer credentials) := by
  have hsign : ∀ offset : Int, Footprint signEffects
      (do
        record (.signing signer offset (← CallM.request))
        let answer ← performOnRequest fun r => signer.sign r credentials
        let r ← CallM.request
        CallM.ofExcept (.signing r.method r.loggedUri) answer : CallM σ Unit) := by
    intro offset
    exact .bind .request fun _ => .bind (.record .signing rfl (by decide)) fun _ =>
      .bind (.performOnRequest _ (by decide)) fun _ => .bind .request fun _ =>
        .ofExcept .signing (fun _ => rfl) (by decide)
  unfold sign
  refine .bind .get fun run =>
    .ite (hsign _) (.bind (.revise _ fun r part hn => ?_) fun _ => hsign _)
  exact absurd (List.mem_append_left _ (request_mem_anyRequest part)) hn

/-! ### The exchange -/

theorem exchangeLimit_footprint (s : CallSetting σ α) :
    Footprint [records .clockRead, fails .deadlineExceeded] (exchangeLimit s) := by
  unfold exchangeLimit
  split
  · exact .pure _
  · refine .bind ((readClock_footprint s).mono (by decide)) fun now => ?_
    split
    · exact .pure _
    · exact .bind .request fun r => .throw .deadlineExceeded rfl (by decide)

theorem dispatch_footprint (s : CallSetting σ α) (limit : Option Duration) :
    Footprint (anyRequest ++ [records .dispatched]) (dispatch s limit) :=
  .bind .request fun _ => .bind .get fun _ => .bind (.record .dispatched rfl (by decide)) fun _ =>
    .performOnRequest _ (by decide)

/-! ### The answer -/

theorem foldlM_footprint {β γ : Type} {f : γ → β → CallM σ γ}
    (hf : ∀ c b, Footprint effects (f c b)) (l : List β) (c : γ) :
    Footprint effects (l.foldlM f c) := by
  induction l generalizing c with
  | nil => exact .pure c
  | cons b l ih => exact .bind (hf c b) fun c => ih c

theorem beforeUnmarshal_footprint (s : CallSetting σ α) (r : HttpResponse) :
    Footprint [records .hook] (beforeUnmarshal s r) := by
  refine foldlM_footprint (fun r hook => ?_) _ r
  exact .bind (.record .hook rfl (by decide)) fun _ => .bind .request fun _ => .perform _

theorem remember_footprint (metadata : Option Metadata) :
    Footprint [.metadata] (remember metadata : CallM σ Unit) := by
  unfold remember
  split
  · refine .update fun run => .of_journal_eq rfl fun effect hn => ?_
    cases effect <;> first | exact RequestPart.spares_refl _ _ | rfl | contradiction | trivial
  · exact .pure ()

theorem returnCapacity_footprint (s : CallSetting σ α) :
    Footprint [records .capacityReturned, pool] (returnCapacity s) := by
  refine .bind .get fun run => .bind (.record .capacityReturned rfl (by decide)) fun _ =>
    .update fun run => .of_journal_eq rfl fun effect hn => ?_
  cases effect <;> first | exact RequestPart.spares_refl _ _ | rfl | contradiction | trivial

theorem complete_footprint (s : CallSetting σ α) (status : Status) (handled : Handled α)
    (r : HttpResponse) :
    Footprint [.metadata, records .capacityReturned, pool, records .milestone]
      (complete s status handled r) :=
  .bind ((remember_footprint _).mono (by decide)) fun _ =>
    .bind ((returnCapacity_footprint s).mono (by decide)) fun _ =>
      .bind ((announce_footprint _).mono (by decide)) fun _ => .pure _

theorem readFailure_footprint (s : CallSetting σ α) (r : HttpResponse) :
    Footprint [] (readFailure s r) :=
  .bind (.perform _) fun _ => .bind .request fun _ => .pure _

theorem countThrottle_footprint (s : CallSetting σ α) (e : ServiceError) :
    Footprint [metrics, clientMetrics] (countThrottle s e) :=
  .ite (.bind (.count _ (by decide)) fun _ => .countForClient s _ (by decide)) (.pure ())

theorem correctClock_footprint (s : CallSetting σ α) (headers : Headers) (e : ServiceError) :
    Footprint [clockOffset, .request .timeOffset, clientMetrics, records .clockSkewed]
      (correctClock s headers e) := by
  unfold correctClock
  refine .ite (.bind (.perform _) fun now => .bind (.record .clockSkewed rfl (by decide))
    fun _ => .bind .get fun run => .bind (.update ?_) fun _ => ?_) (.pure ())
  · refine fun run => .of_journal_eq rfl fun effect hn => ?_
    cases effect <;> first | exact RequestPart.spares_refl _ _ | rfl | contradiction | trivial
  · refine .ite (.pure ()) (.bind (.revise _ fun r part hn => ?_) fun _ =>
      .countForClient s _ (by decide))
    cases part <;> first | rfl | exact absurd (by decide) hn

/-! ### The turn -/

theorem startAttempt_footprint (s : CallSetting σ α) (directive : Directive σ) (number : Nat) :
    Footprint [records .attemptStarted, metrics, clientMetrics]
      (startAttempt s directive number) :=
  .bind (.record .attemptStarted rfl (by decide)) fun _ => .bind (.count _ (by decide)) fun _ =>
    .countForClient s _ (by decide)

/-- The body goes to its mark, or the mark is set anew. -/
def bodyEffects : List Effect := [.request .body, fails .streamReset]

theorem replaceBody_footprint (move : Body → Except IoError Body) :
    Footprint bodyEffects (do
      let body ← CallM.ofExcept .streamReset (move (← CallM.request).body)
      CallM.revise fun r => { r with body } : CallM σ Unit) := by
  refine .bind .request fun _ => .bind (.ofExcept .streamReset (fun _ => rfl) (by decide))
    fun _ => .revise _ fun r part hn => ?_
  cases part <;> first | rfl | exact absurd (by decide) hn

theorem markBody_footprint : Footprint bodyEffects (markBody : CallM σ Unit) :=
  replaceBody_footprint Body.mark

theorem resetBody_footprint : Footprint bodyEffects (resetBody : CallM σ Unit) :=
  replaceBody_footprint Body.reset

def directEffects : List Effect :=
  [.request .endpoint, .request .path, .request .redirectTarget, fails .invalidUri]

theorem direct_footprint (directive : Directive σ) :
    Footprint directEffects (direct directive) := by
  unfold direct
  split
  · split
    · refine .revise _ fun r part hn => ?_
      cases part <;> first | rfl | exact absurd (by decide) hn
    · exact .throw .invalidUri rfl (by decide)
  · split
    · refine .revise _ fun r part hn => ?_
      cases part <;> first | rfl | exact absurd (by decide) hn
    · exact .pure ()
  · exact .pure ()
  · exact .pure ()

def prepareEffects : List Effect :=
  [.request .headers, .request .parameters] ++ bodyEffects ++ directEffects

theorem prepare_footprint (o : Origin) (directive : Directive σ) :
    Footprint prepareEffects (prepare o directive) := by
  have hmark : Footprint prepareEffects
      (do if (← CallM.request).body.isRemarked then markBody : CallM σ Unit) :=
    .bind .request fun r => .ite (markBody_footprint.mono (by decide)) (.pure ())
  unfold prepare
  refine .ite hmark (.bind (.revise _ fun r part hn => ?_) fun _ => ?_)
  · cases part <;> first | rfl | exact absurd (by decide) hn
  · exact .bind (resetBody_footprint.mono (by decide)) fun _ =>
      .bind ((direct_footprint directive).mono (by decide)) fun _ => hmark

theorem takeCapacity_footprint (s : CallSetting σ α) :
    Footprint [pool, tookCapacity, metrics, clientMetrics, records .capacityTaken,
      records .capacityRefused] (takeCapacity s) := by
  unfold takeCapacity
  refine .bind .get fun run => .bind (.update ?_) fun _ => ?_
  · refine fun run => .of_journal_eq rfl fun effect hn => ?_
    cases effect <;> first | exact RequestPart.spares_refl _ _ | rfl | contradiction | trivial
  · refine .ite (.bind (.record .capacityTaken rfl (by decide)) fun _ => .bind (.update ?_)
      fun _ => .bind (.count _ (by decide)) fun _ => .pure _)
      (.bind (.record .capacityRefused rfl (by decide)) fun _ =>
        .bind (.countForClient s _ (by decide)) fun _ => .pure _)
    refine fun run => .of_journal_eq rfl fun effect hn => ?_
    cases effect <;> first | exact RequestPart.spares_refl _ _ | rfl | contradiction | trivial

theorem askCondition_footprint (s : CallSetting σ α) (failed : FailedAttempt σ) :
    Footprint [records .conditionAsked] (askCondition s failed) :=
  .bind (.perform _) fun _ => .bind (.record .conditionAsked rfl (by decide)) fun _ => .pure _

/-- What the question whether to retry may come to. -/
def admitsEffects : List Effect :=
  [pool, tookCapacity, metrics, clientMetrics, records .capacityTaken, records .capacityRefused,
    records .conditionAsked]

theorem admits_footprint (s : CallSetting σ α) (o : Origin) (failure : Error) (number : Nat) :
    Footprint admitsEffects (admits s o failure number) := by
  have hask : Footprint admitsEffects (do
      askCondition s {
        request := (← CallM.request).subject
        error := failure
        attempts := number
        retries := number - 1
        repeatable := o.repeatable } : CallM σ Bool) :=
    .bind .request fun r => (askCondition_footprint s _).mono (by decide)
  unfold admits
  refine .ite (.pure _)
    (.ite hask (.bind ((takeCapacity_footprint s).mono (by decide)) fun _ => ?_))
  exact .ite hask (.pure _)

theorem countException_footprint : Footprint [metrics] (countException : CallM σ Unit) :=
  .count _ (by decide)

theorem countFailedAttempt_frame (run : Run σ) : Frame [metrics] run (countFailedAttempt run) := by
  refine .of_journal_eq rfl fun effect hn => ?_
  cases effect <;> first | exact RequestPart.spares_refl _ _ | rfl | contradiction | trivial

/-! ### Around the attempts -/

theorem begin_footprint (s : CallSetting σ α) (listener : Option (MilestoneListener σ)) :
    Footprint [clientMetrics, records .milestone] (begin s listener) := by
  unfold begin
  refine .bind (.countForClient s _ (by decide)) fun _ =>
    .bind ((announceTo_footprint listener _).mono (by decide)) fun _ => .bind .request fun r => ?_
  split
  · exact (announceTo_footprint listener _).mono (by decide)
  · exact .pure ()

theorem stampAll_footprint (fields : List (String × String)) :
    Footprint stampEffects (stampAll fields : CallM σ Unit) := by
  induction fields with
  | nil => exact .pure ()
  | cons field fields ih => exact .bind (stampHeader_footprint _ _) fun _ => ih

theorem addCustomParameters_spares (p : Parameters) (r : HttpRequest σ) {part : RequestPart}
    (hp : part ≠ .parameters) : part.Spares r (addCustomParameters p r) := by
  have hadd : ∀ (name : String) (values : List String) (r : HttpRequest σ),
      part.Spares r (values.foldl (·.addParameter name ·) r) := by
    intro name values
    induction values with
    | nil => exact part.spares_refl
    | cons value values ih =>
      intro r
      refine RequestPart.Spares.trans ?_ (ih (r.addParameter name value))
      cases part <;> first | rfl | contradiction
  unfold addCustomParameters
  induction p.entries generalizing r with
  | nil => exact part.spares_refl r
  | cons entry entries ih => exact (hadd entry.1 entry.2 r).trans (ih _)

theorem enrich_footprint (s : CallSetting σ α) :
    Footprint (stampEffects ++ [.request .parameters]) (enrich s) := by
  have hstamp : ∀ name value, Footprint (stampEffects ++ [.request .parameters])
      (stampHeader name value : CallM σ Unit) := fun name value =>
    (stampHeader_footprint name value).mono (by decide)
  refine .bind .request fun _ => .bind ((stampAll_footprint _).mono (by decide)) fun _ =>
    .bind (.revise _ fun r part hn => ?_) fun _ => .bind (.perform _) fun _ =>
      .bind (hstamp _ _) fun _ => hstamp _ _
  refine addCustomParameters_spares _ r ?_
  rintro rfl
  exact hn (by decide)

theorem forM_footprint {β : Type} {f : β → CallM σ Unit}
    (hf : ∀ b, Footprint effects (f b)) (l : List β) : Footprint effects (l.forM f) := by
  induction l with
  | nil => exact .pure ()
  | cons b l ih => exact .bind (hf b) fun _ => ih

theorem beforeSend_footprint (s : CallSetting σ α) :
    Footprint (anyRequest ++ [records .hook]) (beforeSend s) :=
  forM_footprint (fun _ => .bind (.record .hook rfl (by decide)) fun _ =>
    .performOnRequest _ (by decide)) _

theorem giveCapacityBack_frame (s : CallSetting σ α) (run : Run σ) :
    Frame [pool, records .capacityReturned] run (giveCapacityBack s run) := by
  unfold giveCapacityBack
  split
  · refine ⟨fun effect hn => ?_, [.capacityReturned s.retryCost], rfl, by simp [Event.kind]⟩
    cases effect <;> first | exact RequestPart.spares_refl _ _ | rfl | contradiction | trivial
  · exact .refl _ run

theorem rewind_frame (run : Run σ) : Frame [.request .body] run (rewind run) := by
  unfold rewind
  split
  · split
    · refine .of_journal_eq rfl fun effect hn => ?_
      cases effect with
      | request part => cases part <;> first | rfl | contradiction
      | _ => first | rfl | trivial
    · exact .refl _ run
  · exact .refl _ run

theorem finish_footprint (s : CallSetting σ α) (listener : Option (MilestoneListener σ))
    (result : Except Error (Response α)) :
    Footprint [clientMetrics, records .hook, records .milestone] (finish s listener result) := by
  unfold finish
  split
  · refine .bind (forM_footprint (fun _ => .bind (.record .hook rfl (by decide)) fun _ =>
      .bind .request fun _ => .perform _) _) fun _ => ?_
    exact .bind ((announceTo_footprint listener _).mono (by decide)) fun _ =>
      .bind .get fun _ => .countForClient s _ (by decide)
  · refine .bind (forM_footprint (fun _ => .bind (.record .hook rfl (by decide)) fun _ =>
      .bind .request fun _ => .perform _) _) fun _ => ?_
    exact .bind ((announceTo_footprint listener _).mono (by decide)) fun _ =>
      .countForClient s _ (by decide)

theorem collect_footprint (s : CallSetting σ α) : Footprint [] (collect s) := by
  unfold collect
  split
  · exact .bind .get fun _ => .perform _
  · exact .pure ()

end ServiceCall.CallM
