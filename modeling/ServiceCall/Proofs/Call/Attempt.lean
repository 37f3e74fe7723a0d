import ServiceCall.Proofs.Call.Admission
import ServiceCall.Proofs.Call.Law
import ServiceCall.Proofs.Call.Phases

/-!
The parts of an attempt up to its answer. Each of them is described once by what it leaves of the
run in which it starts.
-/

namespace ServiceCall

variable {σ α : Type}

/-- A law that lets all events pass but those of some kinds withstands everything that records
none of them. -/
theorem Journal.obeys_dependsOn {law : Journal σ → Event σ → Prop} (kinds : List EventKind)
    (hfree : ∀ before e, e.kind ∉ kinds → law before e) :
    DependsOn (kinds.map Effect.records) fun run : Run σ => run.journal.Obeys law := by
  intro effects run run' hn hf h
  obtain ⟨new, hnew, hk⟩ := hf.journal
  rw [hnew]
  refine h.append_of_free fun e he before => hfree before e fun hmem => ?_
  exact hn _ (List.mem_map_of_mem hmem) (hk e he)

/-- A law that every step keeps is one that the journal of the report obeys. -/
theorem Client.obeys_of_phases {c : Client σ} {handlers : Handlers σ α} {context : CallContext σ}
    {state : ClientState} {request : HttpRequest σ} {world : σ}
    {law : Journal σ → Event σ → Prop} (kinds : List EventKind)
    (hfree : ∀ before e, e.kind ∉ kinds → law before e)
    (hapart : ∀ effect ∈ kinds.map Effect.records, effect ∉ CallM.finishEffects)
    {P : Phase σ α → Run σ → Prop}
    (hP : CallM.PhaseInvariant (c.settingAt handlers context request world) P)
    (h : P .outset (c.runAt state request world))
    (hover : ∀ result run, P (.ended result) run → run.journal.Obeys law) :
    (c.call handlers context state request world).1.journal.Obeys law := by
  refine Client.report_of_phases (Q := fun _ j => j.Obeys law) hP h ?_ (Journal.obeys_nil law)
  intro result conducted last h hf
  exact Journal.obeys_dependsOn kinds hfree _ _ _ hapart hf (hover result conducted h)

/-- The request is as it should be, or it is what a signer made of one that was. -/
def Journal.Sends (P : HttpRequest σ → Prop) (before : Journal σ) (r : HttpRequest σ) : Prop :=
  ∃ handed, P handed ∧ (r = handed ∨ ∃ signer offset credentials world,
    .signing signer offset handed ∈ before ∧ r = (signer.sign handed credentials world).1.2)

theorem Journal.Sends.append {P : HttpRequest σ → Prop} {before : Journal σ} {r : HttpRequest σ}
    (h : before.Sends P r) (new : Journal σ) : (before ++ new).Sends P r := by
  obtain ⟨handed, hhanded, rfl | ⟨signer, offset, credentials, world, hmem, hr⟩⟩ := h
  · exact ⟨r, hhanded, .inl rfl⟩
  · exact ⟨handed, hhanded, .inr ⟨signer, offset, credentials, world,
      List.mem_append_left _ hmem, hr⟩⟩

theorem Journal.sends_dependsOn (P : HttpRequest σ → Prop) :
    DependsOn anyRequest fun run : Run σ => run.journal.Sends P run.request := by
  intro effects run run' hn hf h
  obtain ⟨new, hnew, -⟩ := hf.journal
  have hsame : run'.request = run.request :=
    RequestPart.eq_of_spares fun part _ => hf.part (hn _ (request_mem_anyRequest part))
  rw [hsame, hnew]
  exact h.append new

namespace CallM

/-! ### Credentials -/

/-- Whoever has credentials is asked for them once. -/
theorem loadCredentials_ends (s : CallSetting σ α) (run : Run σ) :
    Ends (loadCredentials s) run
      (fun credentials run' => ∃ world, run' = { run with
        world
        journal := run.journal ++ if credentials.isSome then [.credentialsAsked] else [] })
      fun _ run' => ∃ world, run' = { run with
        world
        journal := run.journal ++ [.credentialsAsked] } := by
  unfold loadCredentials
  rw [ends_bind, ends_request]
  split
  · exact ⟨run.world, by simp⟩
  · simp only [ends_bind, ends_record, ends_perform, ends_ofExcept, ends_pure]
    split
    · exact ⟨_, rfl⟩
    · exact ⟨_, rfl⟩

/-! ### The pause -/

/-- What the rule for pauses is told before the attempt with the number. -/
def failedBefore (r : HttpRequest σ) (failure : Error) (number : Nat) : FailedAttempt σ where
  request := r.subject
  error := failure
  attempts := number - 1
  retries := number - 2
  repeatable := r.body.isRepeatable

/-- What a call does after a pause. -/
def resume (s : CallSetting σ α) (cancelled reachesEnd : Bool) : CallM σ Unit := do
  if ← timeIsUp s then throw (deadlineExceeded s (← request))
  if cancelled then throw (interrupted (← request))
  if reachesEnd then throw (deadlineExceeded s (← request))

/-- A pause that has been planned. -/
def rest (s : CallSetting σ α) (wait : Duration) (reachesEnd : Bool) : CallM σ Unit := do
  let cancelled ← perform (s.client.surroundings.pause s.context.cancel wait)
  record (.paused wait cancelled)
  resume s cancelled reachesEnd

/-- A pause whose length the rule has said. -/
def waitOut (s : CallSetting σ α) (delay : Duration) : CallM σ Unit := do
  let (wait, reachesEnd) ← planWait s delay
  rest s wait reachesEnd

theorem waitOut_footprint (s : CallSetting σ α) (delay : Duration) :
    Footprint [.records .clockRead, .records .paused, .fails .deadlineExceeded,
      .fails .interrupted] (waitOut s delay) := by
  unfold waitOut rest resume
  refine .bind ((planWait_footprint s delay).mono (by decide)) fun plan => ?_
  refine .bind (.perform _) fun _ => .bind (.record .paused rfl (by decide)) fun _ =>
    .bind ((timeIsUp_footprint s).mono (by decide)) fun _ => ?_
  exact check_footprint .deadlineExceeded (fun _ => rfl) (by decide) <|
    check_footprint .interrupted (fun _ => rfl) (by decide) <|
      lastCheck_footprint .deadlineExceeded (fun _ => rfl) (by decide)

/-- First the rule for pauses is asked. -/
theorem pauseAfter_ends {s : CallSetting σ α} {failure : Error} {number : Nat} {run : Run σ}
    {ok : Unit → Run σ → Prop} {failed : Error → Run σ → Prop}
    (h : ∀ delay world, Ends (waitOut s delay)
      { run with
        world
        lastBackoff := delay
        journal := run.journal ++ [.backoffAsked (failedBefore run.request failure number) delay] }
      ok failed) :
    Ends (pauseAfter s failure number) run ok failed := by
  unfold pauseAfter
  rw [ends_bind, ends_request, ends_bind, ends_perform, ends_bind, ends_record, ends_bind,
    ends_modify]
  exact h _ _

/-- Only a pause is more than a milestone. -/
theorem beginAgain_ends {s : CallSetting σ α} {directive : Directive σ} {number : Nat}
    {watched : List Effect} {I : Run σ → Prop} {failed : Error → Run σ → Prop} {run : Run σ}
    (hI : DependsOn watched I) (hn : ∀ effect ∈ watched, effect ≠ .records .milestone)
    (hpause : ∀ failure run, directive = .retry failure → I run →
      Ends (pauseAfter s failure number) run (fun _ => I) failed)
    (h : I run) : Ends (beginAgain s directive number) run (fun _ => I) failed := by
  have hannounce : Ends (announce .retryStarted) run (fun _ => I) failed := by
    apply ((announce_footprint .retryStarted).ends_of_no_failure (by simp) run).mono_ok
    intro _ run' hf
    exact hI _ _ _ (fun effect hw hm => hn effect hw (List.mem_singleton.mp hm)) hf h
  unfold beginAgain
  cases directive with
  | start => exact h
  | retry failure => exact hannounce.bind fun _ run' h => hpause failure run' rfl h
  | redirect target => exact hannounce.bind fun _ _ h => h
  | authRetry parameters => exact hannounce.bind fun _ _ h => h

/-! ### The header field for retries -/

theorem stampRetryHeader_ends (number : Nat) (run : Run σ) :
    Ends (stampRetryHeader number) run
      (fun _ run' => ∃ value, HeaderValue.ofString?
          (retryHeaderValue number run.lastBackoff run.client.pool) = some value ∧
        run' = { run with request :=
          { run.request with headers := run.request.headers.set retryHeader value } })
      fun _ run' => run' = run := by
  have hname : HeaderName.ofString? retryHeader = some retryHeader := by decide
  unfold stampRetryHeader stampHeader
  simp only [ends_bind, ends_get, ends_request, ends_ofExcept, ends_revise,
    HttpRequest.setHeader, hname]
  cases HeaderValue.ofString? (retryHeaderValue number run.lastBackoff run.client.pool) with
  | none => trivial
  | some value => exact ⟨value, rfl, rfl⟩

/-! ### Who signs -/

/-- How an attempt comes to the signer that it is bound to. -/
inductive Binds (s : CallSetting σ α) (directive : Directive σ) (run : Run σ) :
    BoundSigner σ → Run σ → Prop where
  | settled {binding : BoundSigner σ}
    (plan : run.binding.plan run.request.endpoint directive = .settled binding) :
    Binds s directive run binding
      { run with journal := run.journal ++ [.signerBound binding], binding }
  | asked {address : Uri} {signer : Option (Signer σ)} {world : σ}
    (plan : run.binding.plan run.request.endpoint directive = .ask address)
    (answer : s.context.signers address run.world = (signer, world)) :
    Binds s directive run (.bound (some address) signer)
      { run with
        world
        journal :=
          run.journal ++ [.signerAsked address, .signerBound (.bound (some address) signer)]
        binding := .bound (some address) signer }

theorem bindSigner_ends (s : CallSetting σ α) (directive : Directive σ) (run : Run σ)
    {failed : Error → Run σ → Prop} :
    Ends (bindSigner s directive) run
      (fun signer run' => ∃ binding, binding.signer? = signer ∧ Binds s directive run binding run')
      failed := by
  unfold bindSigner
  rw [ends_bind, ends_get]
  dsimp only
  split
  · next binding hplan => exact ⟨binding, rfl, .settled hplan⟩
  · next address hplan =>
    simp only [ends_bind, ends_record, ends_perform, ends_pure, ends_modify]
    refine ⟨_, rfl, ?_⟩
    rw [List.append_assoc]
    exact .asked hplan rfl

/-- The signer was handed the request, whose time offset may have been set, and left what it made
of it. -/
structure Signed (signer : Signer σ) (credentials : Credentials) (handed : HttpRequest σ)
    (run run' : Run σ) : Prop where
  given : ∃ offset, handed = { run.request with timeOffset := offset }
  request : run'.request = (signer.sign handed credentials run.world).1.2
  journal : ∃ offset, run'.journal = run.journal ++ [.signing signer offset handed]
  binding : run'.binding = run.binding

theorem sign_ends (signer : Signer σ) (credentials : Credentials) (run : Run σ) :
    Ends (sign signer credentials) run
      (fun _ run' => ∃ handed, Signed signer credentials handed run run')
      fun _ run' => ∃ handed, Signed signer credentials handed run run' := by
  unfold sign
  rw [ends_bind, ends_get]
  dsimp only
  split
  · simp only [ends_bind, ends_request, ends_record, ends_performOnRequest, ends_ofExcept]
    split
    · exact ⟨_, ⟨_, rfl⟩, rfl, ⟨_, rfl⟩, rfl⟩
    · exact ⟨_, ⟨_, rfl⟩, rfl, ⟨_, rfl⟩, rfl⟩
  · simp only [ends_bind, ends_revise, ends_request, ends_record, ends_performOnRequest,
      ends_ofExcept]
    split
    · exact ⟨_, ⟨_, rfl⟩, rfl, ⟨_, rfl⟩, rfl⟩
    · exact ⟨_, ⟨_, rfl⟩, rfl, ⟨_, rfl⟩, rfl⟩

/-- An attempt is signed if and only if there are both a signer and credentials. -/
inductive SignsWith (run run' : Run σ) : Option (Signer σ) → Option Credentials → Prop where
  | unsigned {signer : Option (Signer σ)} {credentials : Option Credentials}
    (missing : signer = none ∨ credentials = none) (same : run' = run) :
    SignsWith run run' signer credentials
  | signed {signer : Signer σ} {credentials : Credentials} {handed : HttpRequest σ}
    (signed : Signed signer credentials handed run run') :
    SignsWith run run' (some signer) (some credentials)

theorem signWith_ends (signer : Option (Signer σ)) (credentials : Option Credentials)
    (run : Run σ) :
    Ends (signWith signer credentials) run
      (fun _ run' => SignsWith run run' signer credentials)
      fun _ run' => SignsWith run run' signer credentials := by
  unfold signWith
  split
  · next signer credentials =>
    exact (sign_ends signer credentials run).mono (fun _ _ ⟨_, h⟩ => .signed h)
      fun _ _ ⟨_, h⟩ => .signed h
  · next hmissing =>
    refine .unsigned ?_ rfl
    cases signer with
    | none => exact .inl rfl
    | some signer =>
      cases credentials with
      | none => exact .inr rfl
      | some credentials => exact (hmissing signer credentials rfl rfl).elim

/-- Whether or not it is signed, a request that is as it should be is sent as it should be. -/
theorem SignsWith.sends {run run' : Run σ} {signer : Option (Signer σ)}
    {credentials : Option Credentials} (h : SignsWith run run' signer credentials)
    {P : HttpRequest σ → Prop} (hP : ∀ offset, P { run.request with timeOffset := offset }) :
    run'.journal.Sends P run'.request := by
  cases h with
  | unsigned _ same =>
    rw [same]
    exact ⟨run.request, hP run.request.timeOffset, .inl rfl⟩
  | signed hsigned =>
    obtain ⟨⟨timeOffset, rfl⟩, hrequest, ⟨offset, hj⟩, -⟩ := hsigned
    exact ⟨_, hP timeOffset, .inr ⟨_, offset, _, _, by rw [hj]; simp, hrequest⟩⟩

/-! ### The exchange -/

/-- An exchange up to the answer of the transport, with its limit. -/
def sendOff (s : CallSetting σ α) :
    CallM σ (Option Duration × Except TransportError HttpResponse) := do
  let limit ← exchangeLimit s
  announce .dispatchStarted
  return (limit, ← dispatch s limit)

theorem announce_ends (event : Milestone) (run : Run σ) {failed : Error → Run σ → Prop} :
    Ends (announce event) run
      (fun _ run' => ∃ world, run' = { run with
        world
        journal := run.journal ++ [.milestone event] }) failed := by
  unfold announce announceTo
  rw [ends_bind, ends_request, ends_bind, ends_record]
  split
  · exact ⟨_, rfl⟩
  · exact ⟨run.world, rfl⟩

theorem dispatch_ends (s : CallSetting σ α) (limit : Option Duration) (run : Run σ)
    {failed : Error → Run σ → Prop} :
    Ends (dispatch s limit) run
      (fun answer run' =>
        ((answer, run'.request), run'.world) =
          s.client.transport.send run.request limit run.world ∧
        run'.journal =
          run.journal ++ [.dispatched run.request limit run.client.metrics.inFlight] ∧
        run'.binding = run.binding) failed := by
  unfold dispatch
  simp only [ends_bind, ends_request, ends_get, ends_record, ends_performOnRequest]
  trivial

/-- What may happen between the signature and the dispatch. -/
def sendOffEffects : List Effect :=
  [.records .clockRead, .records .milestone, .fails .deadlineExceeded]

theorem sendOff_footprint (s : CallSetting σ α) :
    Footprint (sendOffEffects ++ anyRequest ++ [.records .dispatched]) (sendOff s) :=
  .bind ((exchangeLimit_footprint s).mono (by decide)) fun _ =>
    .bind ((announce_footprint _).mono (by decide)) fun limit =>
      .bind ((dispatch_footprint s _).mono (by decide)) fun _ => .pure _

/-- What holds once the request is signed holds when it is sent. -/
theorem sendOff_ends {s : CallSetting σ α} {watched : List Effect} {I : Run σ → Prop}
    {run : Run σ} {ok : Option Duration × Except TransportError HttpResponse → Run σ → Prop}
    {failed : Error → Run σ → Prop} (hI : DependsOn watched I)
    (hn : ∀ effect ∈ watched, effect ∉ sendOffEffects) (hlate : ∀ e run', I run' → failed e run')
    (hsent : ∀ limit answer sending run', I sending →
      ((answer, run'.request), run'.world) =
        s.client.transport.send sending.request limit sending.world →
      run'.journal =
        sending.journal ++ [.dispatched sending.request limit sending.client.metrics.inFlight] →
      run'.binding = sending.binding → ok (limit, answer) run')
    (h : I run) : Ends (sendOff s) run ok failed := by
  have hquiet : ∀ effects ⊆ sendOffEffects, ∀ effect ∈ watched, effect ∉ effects :=
    fun effects hs effect hw hm => hn effect hw (hs hm)
  unfold sendOff
  refine (((exchangeLimit_footprint s).keeps hI (hquiet _ (by decide)) h).mono_failed
      hlate).bind fun limit _ h => ?_
  refine (((announce_footprint _).keeps hI (hquiet _ (by decide)) h).mono_failed
      hlate).bind fun _ sending h => ?_
  refine (dispatch_ends s limit sending).bind fun answer run' ⟨hanswer, hj, hbinding⟩ => ?_
  exact hsent limit answer sending run' h hanswer hj hbinding

end CallM

end ServiceCall
