import ServiceCall.Proofs.Call.Closing

/-!
Deeds: what the collaborators of a call do, and what its journal says of it. Nothing but such a deed
changes the world, and the journal says nothing of a collaborator that it has not done then and
there. So the journal leads from the world that a call has found to the one that it leaves.
-/

namespace ServiceCall

variable {σ α : Type}

/-! ### Deeds -/

/-- What the collaborators of a call act on. -/
structure Scene (σ : Type) where
  request : HttpRequest σ
  world : σ

def Run.scene (run : Run σ) : Scene σ := ⟨run.request, run.world⟩

/-- The event says what the call does by itself. -/
def Event.isInward : Event σ → Bool
  | .attemptStarted .. | .signerBound _ | .answered _ | .capacityTaken _ | .capacityRefused _
  | .capacityReturned _ => true
  | _ => false

/-- Who is told of a milestone. That of a whole call goes to the host, who listened when the call
began; any other goes to the listener of the request as it is by then. -/
def Milestone.hearer (host : Option (MilestoneListener σ)) (r : HttpRequest σ) :
    Milestone → Option (MilestoneListener σ)
  | .callStarted | .requestLength _ | .callSucceeded | .callFailed => host
  | _ => r.subject.listener

/-- Whom a call with such a request may ask or tell something, and what the journal says of the
answer. -/
inductive Question (s : CallSetting σ α) (host : Option (MilestoneListener σ))
    (r : HttpRequest σ) : {β : Type} → StateM σ β → (β → Option (Event σ)) → Prop where
  | listener (event : Milestone) :
    Question s host r (event.tellTo (event.hearer host r)) fun _ => some (.milestone event)
  | clock : Question s host r s.client.surroundings.now fun now => some (.clockRead now)
  | timeOfDay (headers : Headers) (e : ServiceError) :
    Question s host r s.client.surroundings.timeOfDay fun now => some (.clockSkewed headers e now)
  | flag : Question s host r (s.client.surroundings.isCancelled s.context.cancel)
      fun cancelled => some (.cancelRead cancelled)
  | pause (wait : Duration) : Question s host r (s.client.surroundings.pause s.context.cancel wait)
      fun cancelled => some (.paused wait cancelled)
  | invocationId : Question s host r s.client.surroundings.invocationId fun _ => none
  | credentials {source : CredentialsSource σ}
    (named : (r.subject.credentials <|> s.context.credentials) = some source) :
    Question s host r source fun _ => some .credentialsAsked
  | signers (address : Uri) :
    Question s host r (s.context.signers address) fun _ => some (.signerAsked address)
  | backoff (failed : FailedAttempt σ) :
    Question s host r (s.client.config.retryPolicy.backoff failed)
      fun delay => some (.backoffAsked failed delay)
  | condition (failed : FailedAttempt σ) :
    Question s host r (s.client.config.retryPolicy.condition failed)
      fun admitted => some (.conditionAsked failed admitted)
  | authRetry {rule : AuthRetryRule σ} (named : s.context.authRetry = some rule)
    (e : ServiceError) :
    Question s host r (rule r e) fun parameters => some (.authAsked e parameters.isSome)
  | beforeUnmarshal {hook : Hook σ} {place : Nat} (named : s.context.hooks[place]? = some hook)
    (response : HttpResponse) : Question s host r (hook.beforeUnmarshal r response)
      fun _ => some (.hook .beforeUnmarshal place)
  | afterResponse {hook : Hook σ} {place : Nat} (named : s.context.hooks[place]? = some hook)
    (status : Status) (headers : Headers) : Question s host r (hook.afterResponse r status headers)
      fun _ => some (.hook .afterResponse place)
  | afterError {hook : Hook σ} {place : Nat} (named : s.context.hooks[place]? = some hook)
    (e : Error) : Question s host r (hook.afterError r e) fun _ => some (.hook .afterError place)
  | handler (response : HttpResponse) :
    Question s host r (s.handlers.response.handle response) fun _ => some (.handled response)
  | errorHandler (response : HttpResponse) :
    Question s host r (s.handlers.error response) fun _ => none
  | collector (m : CallMetrics) : Question s host r (s.tellCollector m) fun _ => none

/-- What happens next in a call, and what the journal says of it. What the call does by itself
leaves the world as it is, and keeps the subject of the request. -/
inductive Deed (s : CallSetting σ α) (host : Option (MilestoneListener σ)) (now : Scene σ) :
    Option (Event σ) → Scene σ → Prop where
  | inward {event? : Option (Event σ)} {next : Scene σ} (quiet : ∀ e ∈ event?, e.isInward = true)
    (world : next.world = now.world) (subject : next.request.subject = now.request.subject) :
    Deed s host now event? next
  | asked {β : Type} {act : StateM σ β} {tells : β → Option (Event σ)}
    (question : Question s host now.request act tells) :
    Deed s host now (tells (act now.world).1) ⟨now.request, (act now.world).2⟩
  | hooked {hook : Hook σ} {place : Nat} (named : s.context.hooks[place]? = some hook) :
    Deed s host now (some (.hook .beforeSend place))
      ⟨(hook.beforeSend now.request now.world).1, (hook.beforeSend now.request now.world).2⟩
  | signed (signer : Signer σ) (credentials : Credentials) (offset : Int) :
    Deed s host now (some (.signing signer offset now.request))
      ⟨(signer.sign now.request credentials now.world).1.2,
        (signer.sign now.request credentials now.world).2⟩
  | sent (limit : Option Duration) (inFlight : Nat) :
    Deed s host now (some (.dispatched now.request limit inFlight))
      ⟨(s.client.transport.send now.request limit now.world).1.2,
        (s.client.transport.send now.request limit now.world).2⟩

/-- The deeds of which the journal tells lead from one scene to the other. -/
inductive Deeds (s : CallSetting σ α) (host : Option (MilestoneListener σ)) :
    Scene σ → Journal σ → Scene σ → Prop where
  | nil (now : Scene σ) : Deeds s host now [] now
  | cons {now next last : Scene σ} {event? : Option (Event σ)} {rest : Journal σ}
    (deed : Deed s host now event? next) (others : Deeds s host next rest last) :
    Deeds s host now (event?.toList ++ rest) last

section

variable {s : CallSetting σ α} {host : Option (MilestoneListener σ)} {now next last : Scene σ}
  {event? : Option (Event σ)} {before after : Journal σ} {e : Event σ}

/-- A milestone is told to its hearer. -/
theorem Deed.of_milestone {event : Milestone} (h : Deed s host now (some (.milestone event)) next) :
    next = ⟨now.request, (event.tellTo (event.hearer host now.request) now.world).2⟩ := by
  generalize htold : some (Event.milestone event) = event? at h
  cases h with
  | inward quiet world subject => exact Bool.noConfusion (quiet _ htold.symm)
  | asked question =>
    cases question with
    | listener event' =>
      obtain rfl := Event.milestone.inj (Option.some.inj htold)
      rfl
    | _ => cases htold
  | _ => cases htold

/-- A signature is made by the signer, on the request as it is then. -/
theorem Deed.of_signing {signer : Signer σ} {offset : Int} {r : HttpRequest σ}
    (h : Deed s host now (some (.signing signer offset r)) next) :
    r = now.request ∧ ∃ credentials, next =
      ⟨(signer.sign r credentials now.world).1.2, (signer.sign r credentials now.world).2⟩ := by
  generalize htold : some (Event.signing signer offset r) = event? at h
  cases h with
  | inward quiet world subject => exact Bool.noConfusion (quiet _ htold.symm)
  | asked question => cases question <;> cases htold
  | signed signer' credentials offset' =>
    obtain ⟨rfl, rfl, rfl⟩ := Event.signing.inj (Option.some.inj htold)
    exact ⟨rfl, credentials, rfl⟩
  | _ => cases htold

namespace Deeds

theorem single (h : Deed s host now event? next) : Deeds s host now event?.toList next :=
  List.append_nil event?.toList ▸ .cons h (.nil next)

theorem append (h : Deeds s host now before next) (h' : Deeds s host next after last) :
    Deeds s host now (before ++ after) last := by
  induction h with
  | nil => exact h'
  | cons deed _ ih =>
    rw [List.append_assoc]
    exact .cons deed (ih h')

/-- Each event has its deed, after all that is told before it. -/
theorem exists_deed (h : Deeds s host now (before ++ e :: after) last) :
    ∃ here there, Deeds s host now before here ∧ Deed s host here (some e) there ∧
      Deeds s host there after last := by
  generalize hj : before ++ e :: after = j at h
  -- A deed of which nothing is told stands before `e`, wherever that is.
  induction h generalizing before with
  | nil => simp at hj
  | @cons now next last event? rest deed others ih =>
    cases event? with
    | none =>
      obtain ⟨here, there, hbefore, hdeed, hafter⟩ := ih hj
      exact ⟨here, there, .cons deed hbefore, hdeed, hafter⟩
    | some e' =>
      cases before with
      | nil =>
        obtain ⟨rfl, rfl⟩ := List.cons.inj hj
        exact ⟨now, next, .nil now, deed, others⟩
      | cons e'' before =>
        obtain ⟨rfl, hrest⟩ := List.cons.inj hj
        obtain ⟨here, there, hbefore, hdeed, hafter⟩ := ih hrest
        exact ⟨here, there, .cons deed hbefore, hdeed, hafter⟩

end Deeds

end

/-! ### Actions -/

/-- The journal tells the deeds that lead from one run to the other. -/
def Recounts (s : CallSetting σ α) (host : Option (MilestoneListener σ)) (run run' : Run σ) :
    Prop :=
  ∃ new, run'.journal = run.journal ++ new ∧ Deeds s host run.scene new run'.scene

namespace Recounts

variable {s : CallSetting σ α} {host : Option (MilestoneListener σ)} {run run' run'' : Run σ}

theorem refl (run : Run σ) : Recounts s host run run :=
  ⟨[], (List.append_nil _).symm, .nil run.scene⟩

theorem trans (h : Recounts s host run run') (h' : Recounts s host run' run'') :
    Recounts s host run run'' := by
  obtain ⟨new, hnew, hdeeds⟩ := h
  obtain ⟨new', hnew', hdeeds'⟩ := h'
  exact ⟨new ++ new', by rw [hnew', hnew, List.append_assoc], hdeeds.append hdeeds'⟩

theorem deeds (h : Recounts s host run run') (hj : run.journal = []) :
    Deeds s host run.scene run'.journal run'.scene := by
  obtain ⟨new, hnew, hdeeds⟩ := h
  rw [hj, List.nil_append] at hnew
  rwa [hnew]

theorem of_deed {event? : Option (Event σ)} (h : Deed s host run.scene event? run'.scene)
    (hj : run'.journal = run.journal ++ event?.toList) : Recounts s host run run' :=
  ⟨event?.toList, hj, .single h⟩

/-- An answer was given, and the journal says so. -/
theorem asked {β : Type} {act : StateM σ β} {tells : β → Option (Event σ)}
    (h : Question s host run.request act tells) :
    Recounts s host run { run with
      world := (act run.world).2
      journal := run.journal ++ (tells (act run.world).1).toList } :=
  .of_deed (.asked h) rfl

/-- What the call does by itself without a word. -/
theorem of_inward (hworld : run'.world = run.world)
    (hsubject : run'.request.subject = run.request.subject)
    (hj : run'.journal = run.journal) : Recounts s host run run' := by
  have hdeed : Deed s host run.scene none run'.scene := .inward (by simp) hworld hsubject
  exact .of_deed hdeed (hj.trans (List.append_nil _).symm)

end Recounts

namespace CallM

/-- Whatever the action does, the journal tells of it. -/
structure Does (s : CallSetting σ α) (host : Option (MilestoneListener σ)) {β : Type}
    (act : CallM σ β) : Prop where
  ends : ∀ run, Ends act run (fun _ => Recounts s host run) fun _ => Recounts s host run

namespace Does

variable {β γ : Type} {s : CallSetting σ α} {host : Option (MilestoneListener σ)} {act : CallM σ β}
  {f : β → CallM σ γ}

theorem pure (value : β) : Does s host (Pure.pure value : CallM σ β) := ⟨fun run => .refl run⟩

theorem throw (e : Error) : Does s host (MonadExcept.throw e : CallM σ β) := ⟨fun run => .refl run⟩

theorem bind (h : Does s host act) (hf : ∀ value, Does s host (f value)) :
    Does s host (act >>= f) := by
  refine ⟨fun run => (h.ends run).bind fun value run' htold => ?_⟩
  exact ((hf value).ends run').mono (fun _ _ h => htold.trans h) fun _ _ h => htold.trans h

theorem ite {c : Prop} [Decidable c] {act' : CallM σ β} (h : Does s host act)
    (h' : Does s host act') : Does s host (if c then act else act') := by
  split
  · exact h
  · exact h'

theorem foldlM {round : γ → β → CallM σ γ} {l : List β}
    (h : ∀ b ∈ l, ∀ c, Does s host (round c b)) (c : γ) : Does s host (l.foldlM round c) := by
  induction l generalizing c with
  | nil => exact .pure c
  | cons b l ih => exact .bind (h b (.head _) c) fun c => ih (fun b hb => h b (.tail _ hb)) c

theorem forM {round : β → CallM σ Unit} {l : List β} (h : ∀ b ∈ l, Does s host (round b)) :
    Does s host (l.forM round) := by
  induction l with
  | nil => exact .pure ()
  | cons b l ih => exact .bind (h b (.head _)) fun _ => ih fun b hb => h b (.tail _ hb)

/-! ### What a call does by itself -/

theorem get : Does s host (MonadState.get : CallM σ (Run σ)) := ⟨fun run => .refl run⟩

theorem request : Does s host (CallM.request : CallM σ (HttpRequest σ)) := ⟨fun run => .refl run⟩

theorem ofExcept {ε : Type} (name : ε → Error) (x : Except ε β) :
    Does s host (CallM.ofExcept name x : CallM σ β) := by
  cases x with
  | ok value => exact .pure value
  | error e => exact .throw (name e)

theorem update {g : Run σ → Run σ}
    (h : ∀ run, (g run).scene = run.scene ∧ (g run).journal = run.journal) :
    Does s host (modify g : CallM σ Unit) := by
  refine ⟨fun run => .of_inward ?_ ?_ (h run).2⟩
  · exact congrArg Scene.world (h run).1
  · exact congrArg (·.request.subject) (h run).1

theorem revise {g : HttpRequest σ → HttpRequest σ} (h : ∀ r, (g r).subject = r.subject) :
    Does s host (CallM.revise g) := ⟨fun run => .of_inward rfl (h run.request) rfl⟩

theorem count (g : CallMetrics → CallMetrics) : Does s host (CallM.count g : CallM σ Unit) :=
  update fun _ => ⟨rfl, rfl⟩

theorem countForClient (g : ClientMetrics → ClientMetrics) :
    Does s host (CallM.countForClient s g) :=
  ⟨fun _ => (ends_countForClient s g).mpr (.of_inward rfl rfl rfl)⟩

theorem record {e : Event σ} (h : e.isInward = true) : Does s host (CallM.record e) := by
  have hquiet : ∀ e' ∈ some e, e'.isInward = true := by simpa using h
  exact ⟨fun _ => .of_deed (.inward hquiet rfl rfl) rfl⟩

theorem onFailure {undo : Run σ → Run σ} (h : Does s host act)
    (hundo : ∀ run, Recounts s host run (undo run)) : Does s host (CallM.onFailure act undo) :=
  ⟨fun run => ends_onFailure.mpr
    ((h.ends run).mono_failed fun _ run' htold => htold.trans (hundo run'))⟩

theorem settle (h : Does s host act) : Does s host (CallM.settle act) :=
  ⟨fun run => ends_settle.mpr (h.ends run)⟩

/-! ### Questions -/

variable {act : StateM σ β} {run : Run σ}

/-- A question of which the journal tells afterwards. -/
theorem ends_ask {tells : β → Event σ}
    (h : Question s host run.request act fun answer => some (tells answer))
    (hf : ∀ answer, Does s host (f answer)) : Ends (do
      let answer ← CallM.perform act
      CallM.record (tells answer)
      f answer) run (fun _ => Recounts s host run) fun _ => Recounts s host run := by
  rw [ends_bind, ends_perform, ends_bind, ends_record]
  have hasked := Recounts.asked h
  exact ((hf _).ends _).mono (fun _ _ h => hasked.trans h) fun _ _ h => hasked.trans h

/-- A question of which the journal tells beforehand. -/
theorem ends_tell {e : Event σ} (h : Question s host run.request act fun _ => some e)
    (hf : ∀ answer, Does s host (f answer)) : Ends (do
      CallM.record e
      let answer ← CallM.perform act
      f answer) run (fun _ => Recounts s host run) fun _ => Recounts s host run := by
  rw [ends_bind, ends_record, ends_bind, ends_perform]
  have hasked := Recounts.asked h
  exact ((hf _).ends _).mono (fun _ _ h => hasked.trans h) fun _ _ h => hasked.trans h

/-- A question of which the journal does not tell. -/
theorem ends_quiet (h : Question s host run.request act fun _ => none) :
    Ends (CallM.perform act) run (fun _ => Recounts s host run) fun _ => Recounts s host run := by
  rw [ends_perform]
  have hasked := Recounts.asked h
  rwa [Option.toList_none, List.append_nil] at hasked

theorem ask {tells : β → Event σ}
    (h : ∀ r, Question s host r act fun answer => some (tells answer))
    (hf : ∀ answer, Does s host (f answer)) : Does s host (do
      let answer ← CallM.perform act
      CallM.record (tells answer)
      f answer) := ⟨fun run => ends_ask (h run.request) hf⟩

theorem tell {e : Event σ} (h : ∀ r, Question s host r act fun _ => some e)
    (hf : ∀ answer, Does s host (f answer)) : Does s host (do
      CallM.record e
      let answer ← CallM.perform act
      f answer) := ⟨fun run => ends_tell (h run.request) hf⟩

/-- A question about the request. -/
theorem tellOfRequest {act : HttpRequest σ → StateM σ β} {e : Event σ}
    (h : ∀ r, Question s host r (act r) fun _ => some e) : Does s host (do
      CallM.record e
      CallM.perform (act (← CallM.request))) := by
  refine ⟨fun run => ?_⟩
  rw [ends_bind, ends_record, ends_bind, ends_request, ends_perform]
  exact Recounts.asked (h run.request)

theorem perform (h : ∀ r, Question s host r act fun _ => none) : Does s host (CallM.perform act) :=
  ⟨fun run => ends_quiet (h run.request)⟩

end Does

end CallM

end ServiceCall
