import ServiceCall.Proofs.Attempts.Bounds

/-!
Streams. A body that cannot be sent again is sent once: whatever comes of that, nobody is asked
whether to try again, and nothing is taken from the pool.
-/

namespace ServiceCall

variable {σ α : Type}

/-- A body that cannot be sent again is not replaced by one that can. -/
def HttpRequest.StaysStream (r r' : HttpRequest σ) : Prop :=
  r.body.isRepeatable = false → r'.body.isRepeatable = false

theorem Body.isRemarked_of_not_repeatable {b : Body} (h : b.isRepeatable = false) :
    b.isRemarked = false := by
  cases b with
  | stream source => rfl
  | _ => cases h

/-! ### Journals of one attempt -/

/-- What has to do with trying again. -/
def repeatKinds : List EventKind :=
  [.conditionAsked, .backoffAsked, .authAsked, .capacityTaken, .capacityRefused]

def onceEffects : List Effect :=
  [.records .attemptStarted, .records .dispatched] ++ repeatKinds.map Effect.records

namespace Journal

/-- At most so many attempts were started and so many requests sent, and nothing was done to try
again. -/
structure Once (started sent : Nat) (j : Journal σ) : Prop where
  started : j.started ≤ started
  followed : j.followed = 0
  sent : j.dispatches.length ≤ sent
  quiet : ∀ e ∈ j, e.kind ∉ repeatKinds

variable {started sent : Nat} {j new : Journal σ}

theorem once_nil : Once 0 0 ([] : Journal σ) :=
  ⟨Nat.le_refl _, rfl, Nat.le_refl _, by simp⟩

theorem dispatches_append (j new : Journal σ) :
    (j ++ new).dispatches = j.dispatches ++ new.dispatches := List.filterMap_append

theorem dispatches_eq_nil (h : ∀ e ∈ j, e.kind ≠ .dispatched) : j.dispatches = [] := by
  refine List.filterMap_eq_nil_iff.mpr fun e he => ?_
  have hk := h e he
  cases e <;> first | rfl | exact absurd rfl hk

theorem Once.mono (h : j.Once started sent) {started' sent' : Nat} (hstarted : started ≤ started')
    (hsent : sent ≤ sent') : j.Once started' sent' :=
  ⟨Nat.le_trans h.started hstarted, h.followed, Nat.le_trans h.sent hsent, h.quiet⟩

theorem Once.append (h : j.Once started sent) (hn : ∀ e ∈ new, .records e.kind ∉ onceEffects) :
    (j ++ new).Once started sent := by
  have htally : ∀ e ∈ new, .records e.kind ∉ tallyEffects := fun e he hmem =>
    hn e he ((by decide : tallyEffects ⊆ onceEffects) hmem)
  have hnew : new.dispatches = [] := dispatches_eq_nil fun e he hk =>
    hn e he (hk ▸ (by decide : Effect.records .dispatched ∈ onceEffects))
  constructor
  · rw [Journal.started, countP_append_quiet (by simp [tallyCounts]) htally]
    exact h.started
  · rw [Journal.followed, countP_append_quiet (by simp [tallyCounts]) htally]
    exact h.followed
  · rw [dispatches_append, hnew, List.append_nil]
    exact h.sent
  · intro e he hmem
    rcases List.mem_append.mp he with he | he
    · exact h.quiet e he hmem
    · exact hn e he (List.mem_append_right _ (List.mem_map_of_mem hmem))

theorem Once.concat (h : j.Once started sent) (e : Event σ) (hquiet : e.kind ∉ repeatKinds)
    (hfollowed : e.isFollowed = false) :
    (j ++ [e]).Once (started + e.isStart.toNat) (sent + (dispatches [e]).length) where
  started := by
    rw [Journal.started, countP_concat]
    exact Nat.add_le_add_right h.started _
  followed := by
    rw [Journal.followed, countP_concat, hfollowed]
    exact h.followed
  sent := by
    rw [dispatches_append, List.length_append]
    exact Nat.add_le_add_right h.sent _
  quiet := by
    intro e' he
    rcases List.mem_append.mp he with he | he
    · exact h.quiet e' he
    · rwa [List.mem_singleton.mp he]

theorem Once.start (h : j.Once 0 sent) (number : Nat) :
    (j ++ [Event.attemptStarted number .start]).Once 1 sent :=
  h.concat (.attemptStarted number .start) (by simp [Event.kind, repeatKinds]) rfl

theorem Once.dispatch (h : j.Once started 0) (r : HttpRequest σ) (limit : Option Duration)
    (inFlight : Nat) : (j ++ [Event.dispatched r limit inFlight]).Once started 1 :=
  h.concat (.dispatched r limit inFlight) (by simp [Event.kind, repeatKinds]) rfl

end Journal

/-! ### Calls of one attempt -/

/-- The body cannot be sent again, and the pool is as it was. -/
structure Single (pool : RetryPool) (started sent : Nat) (run : Run σ) : Prop where
  body : run.request.body.isRepeatable = false
  pool : run.client.pool = pool
  tookCapacity : run.tookCapacity = false
  once : run.journal.Once started sent

/-- The request has not been sent, and nobody has been asked to sign it. -/
structure Unsent (pool : RetryPool) (started : Nat) (run : Run σ) : Prop
    extends Single pool started 0 run where
  unbound : run.binding = .unbound

def singleEffects : List Effect := [.request .body, .pool, .tookCapacity] ++ onceEffects

section

variable {pool : RetryPool} {started sent : Nat} {run : Run σ}

theorem once_dependsOn :
    DependsOn onceEffects fun run : Run σ => run.journal.Once started sent := by
  intro effects run run' hn hf h
  obtain ⟨new, hnew, hk⟩ := hf.journal
  rw [hnew]
  exact h.append fun e he hmem => hn _ hmem (hk e he)

theorem single_dependsOn : DependsOn singleEffects (Single (σ := σ) pool started sent) := by
  intro effects run run' hn hf h
  have hbody : run'.request.body = run.request.body := hf.part (hn (.request .body) (by decide))
  constructor
  · rw [hbody, h.body]
  · rw [hf.pool (hn _ (by decide)), h.pool]
  · rw [hf.tookCapacity (hn _ (by decide)), h.tookCapacity]
  · exact once_dependsOn _ _ _ (fun effect hw => hn effect (List.mem_append_right _ hw)) hf h.once

theorem unsent_dependsOn :
    DependsOn (.binding :: singleEffects) (Unsent (σ := σ) pool started) := by
  intro effects run run' hn hf h
  refine ⟨single_dependsOn _ _ _ (fun effect hw => hn effect (.tail _ hw)) hf h.toSingle, ?_⟩
  rw [hf.binding (hn _ (.head _)), h.unbound]

theorem Single.mono (h : Single pool started sent run) (hstarted : started ≤ 1) (hsent : sent ≤ 1) :
    Single pool 1 1 run :=
  ⟨h.body, h.pool, h.tookCapacity, h.once.mono hstarted hsent⟩

end

/-- What holds in each phase of a call whose body cannot be sent again. -/
def Phase.Streams (first : Run σ) : Phase σ α → Run σ → Prop
  | .outset, run => run = first
  | .begun, run => Unsent first.client.pool 0 run
  | .ready o _ directive, run => o.repeatable = false ∧ directive.isStart = true ∧
      Unsent first.client.pool 0 run
  | .waiting o _ _ _, run => o.repeatable = false ∧ Single first.client.pool 1 1 run
  | .failing _, run => Single first.client.pool 1 1 run
  | .ended (.ok _), run => run.journal.Once 1 1
  | .ended (.error _), run => run.journal.Once 1 1 ∧ run.client.pool = first.client.pool

/-- An attempt is over, or has failed in a way that might be tried again. -/
def Outcome.Streams {authAllowed : Bool} (pool : RetryPool) :
    Outcome σ α authAllowed → Run σ → Prop
  | .success _, run => run.journal.Once 1 1
  | .retryable _, run => Single pool 1 1 run
  | .redirect _, _ => False
  | .authRetry .., _ => False

namespace CallM

variable {s : CallSetting σ α} {o : Origin} {tally : Tally} {pool : RetryPool} {run : Run σ}
  {effects : List Effect} {started : Nat}

/-! ### Before the answer -/

theorem Footprint.unsent {β : Type} {act : CallM σ β} (hact : Footprint effects act)
    (hn : ∀ effect ∈ .binding :: singleEffects, effect ∉ effects) (hstarted : started ≤ 1)
    (h : Unsent pool started run) :
    Ends act run (fun _ => Unsent pool started) fun _ => Single pool 1 1 :=
  (hact.keeps unsent_dependsOn hn h).mono (fun _ _ h => h)
    fun _ _ h => h.toSingle.mono hstarted (Nat.zero_le _)

theorem Footprint.single {β : Type} {act : CallM σ β} (hact : Footprint effects act)
    (hn : ∀ effect ∈ singleEffects, effect ∉ effects) (hstarted : started ≤ 1)
    (h : Single pool started 0 run) :
    Ends act run (fun _ => Single pool started 0) fun _ => Single pool 1 1 :=
  (hact.keeps single_dependsOn hn h).mono (fun _ _ h => h)
    fun _ _ h => h.mono hstarted (Nat.zero_le _)

/-- There is nothing to go back to, and no mark to set. -/
theorem prepare_unsent (h : Unsent pool 1 run) :
    Ends (prepare o .start) run (fun _ => Unsent pool 1) fun _ => Single pool 1 1 := by
  have hremarked := Body.isRemarked_of_not_repeatable h.body
  unfold prepare
  refine ends_bind.mpr ?_
  rw [ends_request, if_neg (by simp [hremarked])]
  exact h

theorem approach_unsent (number : Nat) (h : Unsent pool 1 run) :
    Ends (approach s .start number) run (fun _ => Unsent pool 1) fun _ => Single pool 1 1 := by
  unfold approach
  refine ((checkInterruption_footprint s).unsent (by decide) (Nat.le_refl _) h).bind
    fun _ _ h => ?_
  exact ((loadCredentials_footprint s).unsent (by decide) (Nat.le_refl _) h).bind fun _ _ h => h

theorem bindSigner_asks (h : Unsent pool 1 run) :
    Ends (bindSigner s .start) run
      (fun signer run' => Single pool 1 0 run' ∧
        ∃ address world, signer = (s.context.signers address world).1)
      fun _ => Single pool 1 1 := by
  have hkept : Ends (bindSigner s .start) run (fun _ => Single pool 1 0)
      fun _ => Single pool 1 1 :=
    (bindSigner_footprint s .start).single (by decide) (Nat.le_refl _) h.toSingle
  have hasked : Ends (bindSigner s .start) run
      (fun signer _ => ∃ address world, signer = (s.context.signers address world).1)
      fun _ _ => False := by
    unfold bindSigner
    simp only [ends_bind, ends_get, h.unbound, BoundSigner.plan, BoundSigner.keep, ends_record,
      ends_perform, ends_pure, ends_modify]
    exact ⟨_, _, rfl⟩
  exact (hkept.and hasked).mono (fun _ _ h => h) fun _ _ h => h.1

theorem signWith_single {signer : Option (Signer σ)} (credentials : Option Credentials)
    (hsigner : ∀ bound, signer = some bound → bound.Touches HttpRequest.StaysStream)
    (h : Single pool 1 0 run) :
    Ends (signWith signer credentials) run (fun _ => Single pool 1 0) fun _ => Single pool 1 1 := by
  have hsign : ∀ (bound : Signer σ) (credentials : Credentials) (offset : Int) (run : Run σ),
      bound.Touches HttpRequest.StaysStream → Single pool 1 0 run →
      Ends (do
          record (.signing bound offset (← request))
          let answer ← performOnRequest fun r => bound.sign r credentials
          let r ← request
          ofExcept (.signing r.method r.loggedUri) answer : CallM σ Unit) run
        (fun _ => Single pool 1 0) fun _ => Single pool 1 1 := by
    intro bound credentials offset run hbound h
    have hsigned : Single pool 1 0
        { run with
          world := (bound.sign run.request credentials run.world).2
          request := (bound.sign run.request credentials run.world).1.2
          journal := run.journal ++ [.signing bound offset run.request] } :=
      ⟨hbound _ _ _ h.body, h.pool, h.tookCapacity, h.once.append (by simp [Event.kind]; decide)⟩
    simp only [ends_bind, ends_request, ends_record, ends_performOnRequest, ends_ofExcept]
    split
    · exact hsigned
    · exact hsigned.mono (Nat.le_refl _) (Nat.zero_le _)
  unfold signWith
  split
  · next bound credentials =>
    unfold sign
    rw [ends_bind, ends_get]
    dsimp only
    split
    · exact hsign bound credentials _ run (hsigner bound rfl) h
    · rw [ends_bind, ends_revise]
      exact hsign bound credentials _ _ (hsigner bound rfl) ⟨h.body, h.pool, h.tookCapacity, h.once⟩
  · exact h

theorem dispatch_single (ht : s.client.transport.Touches HttpRequest.StaysStream)
    (limit : Option Duration) (h : Single pool 1 0 run) :
    Ends (dispatch s limit) run (fun _ => Single pool 1 1) fun _ => Single pool 1 1 := by
  unfold dispatch
  simp only [ends_bind, ends_request, ends_get, ends_record, ends_performOnRequest]
  exact ⟨ht _ _ _ h.body, h.pool, h.tookCapacity, h.once.dispatch _ _ _⟩

theorem sendOut_single (hs : ∀ address world signer,
      (s.context.signers address world).1 = some signer → signer.Touches HttpRequest.StaysStream)
    (ht : s.client.transport.Touches HttpRequest.StaysStream) (number : Nat)
    (h : Unsent pool 1 run) :
    Ends (sendOut s .start number) run (fun _ => Single pool 1 1) fun _ => Single pool 1 1 := by
  unfold sendOut
  refine (approach_unsent number h).bind fun credentials _ h => ?_
  refine ((stampRetryHeader_footprint number).unsent (by decide) (Nat.le_refl _) h).bind
    fun _ _ h => ?_
  refine (bindSigner_asks h).bind fun signer _ ⟨h, address, world, hsigner⟩ => ?_
  refine (signWith_single credentials (fun bound hbound => hs address world bound ?_) h).bind
    fun _ _ h => ?_
  · rw [← hsigner, hbound]
  · refine ((exchangeLimit_footprint s).single (by decide) (Nat.le_refl _) h).bind
      fun limit _ h => ?_
    refine ((announce_footprint _).single (by decide) (Nat.le_refl _) h).bind fun _ _ h => ?_
    exact (dispatch_single ht limit h).bind fun _ _ h => h

theorem depart_single (hs : ∀ address world signer,
      (s.context.signers address world).1 = some signer → signer.Touches HttpRequest.StaysStream)
    (ht : s.client.transport.Touches HttpRequest.StaysStream) (h : Unsent pool 0 run) :
    Ends (depart s o tally .start) run (fun _ => Single pool 1 1) fun _ => Single pool 1 1 := by
  unfold depart
  refine ((checkInterruption_footprint s).unsent (by decide) (Nat.zero_le _) h).bind
    fun _ run h => ?_
  have hstarted : Unsent pool 1
      { run with journal := run.journal ++ [.attemptStarted (tally.attempts + 1) .start] } :=
    ⟨⟨h.body, h.pool, h.tookCapacity, h.once.start _⟩, h.unbound⟩
  refine (startAttempt_ends s .start _ _).bind fun _ _ hf => ?_
  have h := unsent_dependsOn _ _ _ (by decide) hf hstarted
  refine (prepare_unsent h).bind fun _ _ h => ?_
  refine ends_onFailure.mpr ((sendOut_single hs ht _ h).mono (fun _ _ h => h) fun _ run h => ?_)
  exact single_dependsOn _ _ _ (by decide) (countFailedAttempt_frame run) h

/-! ### The answer -/

theorem single_answerRule {authAllowed : Bool} (s : CallSetting σ α) (pool : RetryPool) :
    AnswerRule s singleEffects (Single pool 1 1)
      (Outcome.Streams pool : Outcome σ α authAllowed → Run σ → Prop)
      fun _ => Single pool 1 1 where
  dependsOn := single_dependsOn
  apart := by decide
  handleResult := by
    intro status reason r run h
    refine handleResult_ends single_dependsOn (by decide) ?_ (fun _ _ h => h) (fun _ _ h => h) h
      status reason r
    intro status handled r run h
    refine ((complete_footprint s status handled r).ends_of_no_failure (by simp) run).mono
      (fun _ _ hf => ?_) fun _ _ h => h
    exact once_dependsOn _ _ _ (by decide) hf h.once
  onRedirect := by
    intro location run h
    refine onRedirect_ends (fun _ => h) (fun _ hrep => ?_) fun _ => h
    rw [h.body] at hrep
    cases hrep
  correctClock := fun headers e _ h =>
    (correctClock_footprint s headers e).keeps single_dependsOn (by decide) h
  askAuthRetry := by
    intro e run h
    refine askAuthRetry_ends h fun _ _ _ _ hrep _ => ?_
    rw [h.body] at hrep
    cases hrep
  retryable := fun _ _ h => h
  fatal := fun _ _ _ h => h

/-- A failure is not retried if the body could not be sent again when the attempts began. -/
theorem conclude_of_not_repeatable (ho : o.repeatable = false) (failure : Error) (run : Run σ) :
    Ends (conclude s o tally (.retryable failure)) run (fun _ _ => False)
      fun e run' => e = failure ∧ Frame [.metrics] run run' := by
  unfold conclude
  refine (countException_footprint.ends_of_no_failure (by simp) run).bind fun _ counted hf => ?_
  split
  · refine (admits_ends s o failure _ counted).mono ?_ (fun _ _ h => h.elim) |> ends_bind.mpr
    intro admitted run' hadmission
    cases hadmission with
    | unrepeatable _ same =>
      rw [same]
      exact ⟨rfl, hf⟩
    | refused kept => exact absurd (ho.symm.trans kept) Bool.false_ne_true
    | free kept => exact absurd (ho.symm.trans kept) Bool.false_ne_true
    | paid kept => exact absurd (ho.symm.trans kept) Bool.false_ne_true
  · exact ⟨rfl, hf⟩

theorem arrive_single (ho : o.repeatable = false) (limit : Option Duration)
    (answer : Except TransportError HttpResponse) (h : Single pool 1 1 run) :
    Ends (arrive s o tally limit answer) run
      (fun t run' => ∃ response, t = .finished response ∧ run'.journal.Once 1 1)
      fun _ => Single pool 1 1 := by
  unfold arrive
  refine Ends.bind (ends_onFailure.mpr (((single_answerRule s pool).interpret h limit answer).mono
    (fun _ _ h => h) fun _ run h => ?_)) fun outcome run h => ?_
  · exact single_dependsOn _ _ _ (by decide) (countFailedAttempt_frame run) h
  · cases outcome with
    | success response => exact ⟨response, rfl, h⟩
    | redirect target => exact h.elim
    | authRetry parameters allowed => exact h.elim
    | retryable failure =>
      refine (conclude_of_not_repeatable ho failure run).mono (fun _ _ h => h.elim) ?_
      exact fun _ _ hf => single_dependsOn _ _ _ (by decide) hf.2 h

theorem giveUp_single (h : Single pool 1 1 run) : giveUp s run = run := by
  unfold giveUp giveCapacityBack
  rw [h.tookCapacity, if_neg Bool.false_ne_true, rewind, h.body, if_neg Bool.false_ne_true]

/-! ### Every step -/

/-- What is known of the request before the first attempt is known after the launch. -/
theorem launch_unsent {first : Run σ} (hjournal : first.journal = [])
    (htook : first.tookCapacity = false) (hbinding : first.binding = .unbound)
    (hbody : Ends (launch s) first (fun _ run => run.request.body.isRepeatable = false)
      fun _ _ => True) :
    Ends (launch s) first (fun _ => Unsent first.client.pool 0)
      fun _ run => run.journal.Once 1 1 ∧ run.client.pool = first.client.pool := by
  have honce : first.journal.Once 0 0 := hjournal ▸ Journal.once_nil
  refine (((launch_footprint s).ends first).and hbody).mono ?_ ?_
  · rintro _ run ⟨hf, hrep⟩
    refine ⟨⟨hrep, hf.pool (by decide), (hf.tookCapacity (by decide)).trans htook, ?_⟩,
      (hf.binding (by decide)).trans hbinding⟩
    exact once_dependsOn _ _ _ (by decide) hf honce
  · rintro e run ⟨⟨hf, -⟩, -⟩
    have honce := once_dependsOn _ _ _ (by decide) hf honce
    exact ⟨honce.mono (Nat.zero_le _) (Nat.zero_le _), hf.pool (by decide)⟩

theorem markOrigin_unsent (h : Unsent pool 0 run) :
    Ends markOrigin run (fun o run' => o.repeatable = false ∧ Unsent pool 0 run')
      fun _ => Single pool 1 1 := by
  have hmarked : Ends markBody run (fun _ => Unsent pool 0) fun _ => Single pool 1 1 := by
    obtain ⟨⟨hbody, hpool, htook, honce⟩, hbinding⟩ := h
    refine (ends_replaceBody Body.mark).mpr ?_
    -- A mark that is set on a stream changes nothing.
    cases hold : run.request.body with
    | stream source => exact ⟨⟨rfl, hpool, htook, honce⟩, hbinding⟩
    | _ =>
      rw [hold] at hbody
      cases hbody
  unfold markOrigin
  refine ends_bind.mpr ?_
  rw [ends_request]
  dsimp only
  split
  · exact ⟨h.body, h⟩
  · exact hmarked.bind fun _ _ h' => ⟨h.body, h'⟩

theorem streams_phaseInvariant {first : Run σ} (hjournal : first.journal = [])
    (htook : first.tookCapacity = false) (hbinding : first.binding = .unbound)
    (hbody : Ends (launch s) first (fun _ run => run.request.body.isRepeatable = false)
      fun _ _ => True)
    (hs : ∀ address world signer, (s.context.signers address world).1 = some signer →
      signer.Touches HttpRequest.StaysStream)
    (ht : s.client.transport.Touches HttpRequest.StaysStream) :
    PhaseInvariant s (Phase.Streams first) where
  launch := by
    rintro run rfl
    exact launch_unsent hjournal htook hbinding hbody
  markOrigin := fun _ h =>
    (markOrigin_unsent h).mono (fun _ _ h => ⟨h.1, rfl, h.2⟩) fun _ _ h => h
  depart := by
    rintro o tally directive run ⟨ho, hstart, h⟩
    cases directive with
    | start => exact (depart_single hs ht h).mono (fun _ _ h => ⟨ho, h⟩) fun _ _ h => h
    | _ => cases hstart
  arrive := by
    rintro o tally limit answer run ⟨ho, h⟩
    refine (arrive_single ho limit answer h).mono ?_ fun _ _ h => h
    rintro _ run' ⟨response, rfl, h⟩
    exact h
  giveUp := by
    intro e run h
    rw [giveUp_single h]
    exact ⟨h.once, h.pool⟩

/-- A redirect cannot be followed if the body cannot be sent again. -/
theorem arrive_unfollowed {limit : Option Duration} {response : HttpResponse} {location : String}
    (ho : o.repeatable = false) (hlocation : location? response = some location)
    (hbody : run.request.body.isRepeatable = false) :
    Ends (arrive s o tally limit (.ok response)) run (fun _ _ => False)
      fun e _ => e = .service (.cannotFollow run.request.subject.service location) := by
  have hstay : Ends (onResponse s response) run
      (fun (outcome : Outcome σ α (decide (tally.authRetries < s.limits.authRetries))) _ =>
        outcome = .retryable (.service (.cannotFollow run.request.subject.service location)))
      fun _ _ => False := by
    refine onResponse_ends_of_location hlocation fun run' hf => ?_
    have hsame : run'.request = run.request :=
      RequestPart.eq_of_spares fun part _ => hf.part (by simp)
    unfold onRedirect
    rw [ends_bind, ends_request, hsame, hbody]
    rfl
  unfold arrive
  refine Ends.bind (ends_onFailure.mpr (hstay.mono (fun _ _ h => h) fun _ _ h => h.elim)) ?_
  rintro _ run' rfl
  exact (conclude_of_not_repeatable ho _ run').mono (fun _ _ h => h) fun _ _ h => h.1

end CallM

/-- The launch leads to the request with which the attempts begin. -/
theorem Client.launch_ends (c : Client σ) (handlers : Handlers σ α) (context : CallContext σ)
    (state : ClientState) (request : HttpRequest σ) (world : σ) :
    CallM.Ends (CallM.launch (c.settingAt handlers context request world))
      (c.runAt state request world)
      (fun _ run => c.outset? handlers context state request world = some run.request)
      fun _ _ => True := by
  unfold CallM.launch Client.outset?
  rw [CallM.ends_bind, CallM.ends_request, CallM.ends_bind]
  rcases hbegin : CallM.begin (c.settingAt handlers context request world) request.subject.listener
    (c.runAt state request world) with ⟨_, begun⟩ | ⟨e, stopped⟩
  · refine (CallM.ends_ok_iff hbegin).mpr ?_
    rcases hset : CallM.setOut (c.settingAt handlers context request world) begun with
      ⟨_, outset⟩ | ⟨e, stopped⟩
    · refine (CallM.ends_ok_iff hset).mpr ?_
      dsimp only
      rw [hset]
    · exact (CallM.ends_error_iff hset).mpr trivial
  · exact (CallM.ends_error_iff hbegin).mpr trivial

/-- Of a call whose body cannot be sent again when its attempts begin, and is not replaced, at
most one request is sent. No redirect is followed, a redirect ends the call; the rules for
retries, pauses and authentication retries are not asked. Nothing is taken from the pool, and a
call that fails leaves it as it was. -/
theorem stream_sent_once (c : Client σ) (handlers : Handlers σ α) (context : CallContext σ)
    (state : ClientState) (request : HttpRequest σ) (world : σ) {o : HttpRequest σ}
    (hs : ∀ address world signer, (context.signers address world).1 = some signer →
      signer.Touches HttpRequest.StaysStream)
    (ht : c.transport.Touches HttpRequest.StaysStream)
    (ho : c.outset? handlers context state request world = some o)
    (hbody : o.body.isRepeatable = false) :
    let report := (c.call handlers context state request world).1
    report.journal.dispatches.length ≤ 1 ∧ report.journal.started ≤ 1 ∧
      report.journal.followed = 0 ∧
      (∀ e ∈ report.journal, e.kind ∉ [EventKind.conditionAsked, .backoffAsked, .authAsked,
        .capacityTaken, .capacityRefused]) ∧
      (∀ e, report.result = .error e → report.client.pool = state.pool) ∧
      ∀ n origin tally limit response run location,
        c.StandsAfter handlers context state request world n
          (.waiting origin tally limit (.ok response)) run →
        CallM.location? response = some location →
        ∃ failure, report.result = .error (.service failure) ∧ failure.status = 307 ∧
          failure.code = "TemporaryRedirect" ∧ failure.party = .client := by
  intro report
  have hlaunch : CallM.Ends (CallM.launch (c.settingAt handlers context request world))
      (c.runAt state request world) (fun _ run => run.request.body.isRepeatable = false)
      fun _ _ => True := by
    refine (c.launch_ends handlers context state request world).mono (fun _ run h => ?_)
      fun _ _ h => h
    rw [← Option.some.inj (ho.symm.trans h), hbody]
  have hinvariant : CallM.PhaseInvariant (c.settingAt handlers context request world)
      (Phase.Streams (c.runAt state request world)) :=
    CallM.streams_phaseInvariant rfl rfl rfl hlaunch hs ht
  cases hshut : state.isShutDown with
  | true =>
    have hreport : report = _ := Client.call_of_isShutDown hshut
    rw [hreport]
    refine ⟨Nat.zero_le _, Nat.zero_le _, rfl, by simp, fun _ _ => rfl, ?_⟩
    rintro n origin tally limit response run location ⟨hs, -⟩
    rw [hshut] at hs
    cases hs
  | false =>
    obtain ⟨n, -, result, conducted, last, hstands, hframe, hreport⟩ :=
      @Client.exists_standsAfter_ended σ α c handlers context state request world hshut
    have hended := hstands.invariant hinvariant rfl
    have honce : conducted.journal.Once 1 1 := by
      cases result with
      | ok response => exact hended
      | error e => exact hended.1
    have hlast := once_dependsOn _ _ _ (by decide) hframe honce
    rw [show report.journal = last.journal from hreport.journal,
      show report.result = result from hreport.result,
      show report.client = last.client from hreport.client]
    refine ⟨hlast.sent, hlast.started, hlast.followed, hlast.quiet, ?_, ?_⟩
    · rintro e rfl
      exact (hframe.pool (by decide)).trans hended.2
    · intro n' origin tally limit response run location hwaiting hlocation
      obtain ⟨horigin, hsingle⟩ := hwaiting.invariant hinvariant rfl
      have hresult := hwaiting.result_of_arrive
        (CallM.arrive_unfollowed horigin hlocation hsingle.body)
      exact ⟨_, hreport.result.symm.trans hresult, rfl, rfl, rfl⟩

namespace Rehearsal

/-- What reads a body does not replace it. -/
theorem transport_staysStream : transport.Touches HttpRequest.StaysStream := by
  intro r limit stage hbody
  rw [(transport_reads r limit stage).body.alike.isRepeatable]
  exact hbody

/-- The body can be read once. -/
def streamed : HttpRequest Stage :=
  { request with body := .stream (.ofBytes (Bytes.ofString "payload")) }

end Rehearsal

open Rehearsal in
theorem stream_sent_once_elsewhere :
    let report := rehearse client expired marked (client.start 0) streamed [elsewhere]
    report.journal.dispatches.length ≤ 1 ∧ report.client.pool = (client.start 0).pool ∧
      ∃ failure, report.result = .error (.service failure) ∧ failure.status = 307 := by
  have hout : (client.outset? (handlers expired) marked (client.start 0) streamed
      { steps := [elsewhere] }).map (·.body.isRepeatable) = some false := by
    decide +kernel
  obtain ⟨o, ho, hbody⟩ := Option.map_eq_some_iff.mp hout
  have hs : ∀ address world signer, (marked.signers address world).1 = some signer →
      signer.Touches HttpRequest.StaysStream := by
    rintro _ _ _ ⟨⟩
    exact fun _ _ _ hbody => hbody
  obtain ⟨hsent, -, -, -, hpool, hredirect⟩ := stream_sent_once client (handlers expired) marked
    (client.start 0) streamed { steps := [elsewhere] } hs transport_staysStream ho hbody
  rcases hstands : (CallM.step (client.settingAt (handlers expired) marked streamed
    { steps := [elsewhere] }))^[3] (.outset, client.runAt (client.start 0) streamed
      { steps := [elsewhere] }) with ⟨phase, run⟩
  have hlocation : phase.response?.bind CallM.location? = some "https://other.example.com/" := by
    rw [show phase = _ from (congrArg Prod.fst hstands).symm]
    decide +kernel
  obtain ⟨response, hresponse, hlocation⟩ := Option.bind_eq_some_iff.mp hlocation
  obtain ⟨origin, tally, limit, rfl⟩ := Phase.eq_waiting_of_response? hresponse
  obtain ⟨failure, hresult, hstatus, -⟩ :=
    hredirect 3 origin tally limit response run _ ⟨rfl, hstands⟩ hlocation
  exact ⟨hsent, hpool _ hresult, failure, hresult, hstatus⟩

end ServiceCall
