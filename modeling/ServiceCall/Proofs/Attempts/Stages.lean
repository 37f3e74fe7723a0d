import ServiceCall.Proofs.Body.Rewinding
import ServiceCall.Proofs.Call.Turns
import ServiceCall.Proofs.Call.Law

/-!
Stages of an attempt. Between two attempts a request need only be able to go back; when it is
signed it is the one with which the attempts began, with one header field of its own.
-/

namespace ServiceCall

variable {σ α : Type}

/-! ### What others do to a request -/

/-- The method is the same, and the body has been read at most. -/
structure HttpRequest.Reads (r r' : HttpRequest σ) : Prop where
  method : r'.method = r.method
  body : r.body.Reads r'.body

/-- Whatever the signer does to a request is allowed. -/
def Signer.Touches (touch : HttpRequest σ → HttpRequest σ → Prop) (signer : Signer σ) : Prop :=
  ∀ r credentials world, touch r (signer.sign r credentials world).1.2

/-- Whatever the transport does to a request is allowed. -/
def Transport.Touches (touch : HttpRequest σ → HttpRequest σ → Prop) (t : Transport σ) : Prop :=
  ∀ r limit world, touch r (t.send r limit world).1.2

/-- Whoever may be asked to sign does only what is allowed. -/
structure CallContext.SignersTouch (touch : HttpRequest σ → HttpRequest σ → Prop)
    (context : CallContext σ) : Prop where
  found : ∀ address world signer, (context.signers address world).1 = some signer →
    signer.Touches touch
  granted : ∀ rule r e world parameters signer, context.authRetry = some rule →
    (rule r e world).1 = some parameters → parameters.signer = some signer → signer.Touches touch

/-- What signers are allowed: at least nothing, and at most to read. -/
structure Mild (touch : HttpRequest σ → HttpRequest σ → Prop) : Prop where
  refl : ∀ r, touch r r
  reads : ∀ r r', touch r r' → r.Reads r'

theorem mild_reads : Mild (HttpRequest.Reads (σ := σ)) :=
  ⟨fun _ => ⟨rfl, .refl⟩, fun _ _ h => h⟩

/-! ### The attempt by the journal -/

namespace Journal

variable {j new : Journal σ}

/-- What an attempt is to do that has been started and has not sent its request yet. -/
def pending (j : Journal σ) : Option (Directive σ) :=
  j.foldl (fun pending e => match e with
    | .attemptStarted _ directive => some directive
    | .dispatched .. => none
    | _ => pending) none

theorem pending_append (h : ∀ e ∈ new, e.kind ≠ .attemptStarted ∧ e.kind ≠ .dispatched) :
    (j ++ new).pending = j.pending := by
  induction new generalizing j with
  | nil => rw [List.append_nil]
  | cons e new ih =>
    have hfirst := h e (.head _)
    have hnew : (j ++ [e] ++ new).pending = (j ++ [e]).pending := ih fun e he => h e (.tail _ he)
    rw [List.append_cons, hnew]
    unfold pending
    rw [List.foldl_concat]
    cases e <;> first | rfl | exact absurd rfl hfirst.1 | exact absurd rfl hfirst.2

theorem pending_attemptStarted (j : Journal σ) (number : Nat) (directive : Directive σ) :
    (j ++ [Event.attemptStarted number directive]).pending = some directive :=
  List.foldl_concat ..

theorem pending_dispatched (j : Journal σ) (r : HttpRequest σ) (limit : Option Duration)
    (inFlight : Nat) : (j ++ [Event.dispatched r limit inFlight]).pending = none :=
  List.foldl_concat ..

/-- An attempt is pending until its request is sent, or until the next one is started. -/
theorem pending_of_started (before : Journal σ) {number : Nat} {directive : Directive σ}
    {since : Journal σ} (h : ∀ e ∈ since, e.kind ≠ .attemptStarted ∧ e.kind ≠ .dispatched) :
    (before ++ .attemptStarted number directive :: since).pending = some directive := by
  rw [← List.singleton_append, ← List.append_assoc, pending_append h, pending_attemptStarted]

end Journal

/-! ### Stages of a request -/

/-- The request can go back to the one with which the attempts began. -/
structure Returnable (o r : HttpRequest σ) : Prop where
  method : r.method = o.method
  alike : o.body.Alike r.body
  rewinds : r.body.Rewinds o.body.rest

/-- The request is the one with which the attempts began, with these header fields. -/
structure Whole (o : HttpRequest σ) (headers : Headers) (r : HttpRequest σ) : Prop where
  method : r.method = o.method
  headers : r.headers = headers
  parameters : r.parameters = o.parameters
  alike : o.body.Alike r.body
  rest : r.body.rest = o.body.rest

/-- Moreover, it can go back to the one with which the attempts began. -/
structure Restored (o : HttpRequest σ) (headers : Headers) (r : HttpRequest σ) : Prop
    extends Whole o headers r where
  rewinds : r.body.Rewinds o.body.rest

/-- The request has not been sent yet. If its mark is set anew for every attempt, it has to be
set for this one too. -/
structure Untouched (o r : HttpRequest σ) : Prop extends Whole o o.headers r where
  rewinds : r.body.isRemarked = false → r.body.Rewinds o.body.rest

/-- What a turn needs to start with. -/
def ReadyFor (o : HttpRequest σ) : Directive σ → HttpRequest σ → Prop
  | .start => Untouched o
  | .retry _ => Returnable o
  | .redirect _ => Returnable o
  | .authRetry _ => Returnable o

/-- Every turn but the first is ready where the one before it ends. -/
theorem Directive.Follows.readyFor {s : CallSetting σ α} {directive : Directive σ}
    (h : directive.Follows s) (o : HttpRequest σ) :
    (∀ parameters, directive = .authRetry parameters → Granted s parameters) ∧
      ReadyFor o directive = Returnable o := by
  cases directive with
  | start => exact h.elim
  | retry failure => exact ⟨fun _ heq => absurd heq (by simp), rfl⟩
  | redirect target => exact ⟨fun _ heq => absurd heq (by simp), rfl⟩
  | authRetry parameters => exact ⟨fun _ heq => Directive.authRetry.inj heq ▸ h, rfl⟩

/-- A request that follows a redirect is addressed to its target. -/
def Aimed (directive : Directive σ) (r : HttpRequest σ) : Prop :=
  ∀ target, directive = .redirect target → r.redirectTarget = some target

/-- The request as it is handed to a signer. -/
def Stamped (o r : HttpRequest σ) : Prop :=
  ∃ value, Restored o (o.headers.set CallM.retryHeader value) r

/-- The request as a signer leaves it. -/
def HandedOn (touch : HttpRequest σ → HttpRequest σ → Prop) (o : HttpRequest σ)
    (directive : Directive σ) (r : HttpRequest σ) : Prop :=
  ∃ stamped, Stamped o stamped ∧ Aimed directive stamped ∧ touch stamped r

theorem Restored.untouched {o r : HttpRequest σ} (h : Restored o o.headers r) : Untouched o r :=
  ⟨h.toWhole, fun _ => h.rewinds⟩

theorem Restored.returnable {o r : HttpRequest σ} {headers : Headers}
    (h : Restored o headers r) : Returnable o r :=
  ⟨h.method, h.alike, h.rewinds⟩

theorem Returnable.of_reads {o r r' : HttpRequest σ} (h : Returnable o r) (hr : r.Reads r') :
    Returnable o r' :=
  ⟨hr.method.trans h.method, h.alike.trans hr.body.alike, hr.body.rewinds h.rewinds⟩

/-! ### Stages of a call -/

/-- Every signer is handed a request that is as good as new, and every transport what a signer
has left of one. -/
def SendsRestored (touch : HttpRequest σ → HttpRequest σ → Prop) (o : HttpRequest σ)
    (before : Journal σ) : Event σ → Prop
  | .signing _ _ r => Stamped o r
  | .dispatched r _ _ => ∃ directive, before.pending = some directive ∧
      HandedOn touch o directive r
  | _ => True

theorem sendsRestored_of_kind {touch : HttpRequest σ → HttpRequest σ → Prop} {o : HttpRequest σ}
    {before : Journal σ} {e : Event σ} (hsigning : e.kind ≠ .signing)
    (hdispatched : e.kind ≠ .dispatched) : SendsRestored touch o before e := by
  cases e <;> trivial

/-- Where a call is: what its request is like, and which attempt is pending. -/
structure Midway (touch : HttpRequest σ → HttpRequest σ → Prop) (o : HttpRequest σ)
    (pending : Option (Directive σ)) (P : HttpRequest σ → Prop) (run : Run σ) : Prop where
  request : P run.request
  signer : ∀ signer, run.binding.signer? = some signer → signer.Touches touch
  pending : run.journal.pending = pending
  obeys : run.journal.Obeys (SendsRestored touch o)

/-- How a call fails: because its body cannot go back only if too much of it has been read. -/
structure GivesUp (touch : HttpRequest σ → HttpRequest σ → Prop) (o : HttpRequest σ) (e : Error)
    (run : Run σ) : Prop where
  obeys : run.journal.Obeys (SendsRestored touch o)
  overread : e.code = .streamReset → run.journal.pending ≠ none → o.body.Steady →
    o.body.Alike run.request.body ∧ run.request.body.Overread o.body.rest

def attemptEffects : List Effect :=
  [.binding, .records .attemptStarted, .records .signing, .records .dispatched]

section

variable {touch : HttpRequest σ → HttpRequest σ → Prop} {o : HttpRequest σ}
  {pending : Option (Directive σ)} {P : HttpRequest σ → Prop} {effects : List Effect}
  {run run' : Run σ} {e : Error}

/-- Events of other kinds neither start nor send anything. -/
theorem Journal.Obeys.append_quiet {j new : Journal σ} (h : j.Obeys (SendsRestored touch o))
    (hnew : ∀ e ∈ new, .records e.kind ∉ attemptEffects) :
    (j ++ new).Obeys (SendsRestored touch o) ∧ (j ++ new).pending = j.pending := by
  have hkind : ∀ kind, .records kind ∈ attemptEffects → ∀ e ∈ new, e.kind ≠ kind :=
    fun kind hmem e he hkind => hnew e he (hkind ▸ hmem)
  constructor
  · exact h.append_of_free fun e he _ =>
      sendsRestored_of_kind (hkind _ (by decide) e he) (hkind _ (by decide) e he)
  · exact pending_append fun e he => ⟨hkind _ (by decide) e he, hkind _ (by decide) e he⟩

theorem midway_dependsOn (parts : List RequestPart)
    (hP : ∀ r r', (∀ part ∈ parts, part.Spares r r') → P r → P r') :
    DependsOn (parts.map Effect.request ++ attemptEffects) (Midway touch o pending P) := by
  intro effects run run' hn hf h
  obtain ⟨new, hnew, hk⟩ := hf.journal
  have hquiet := h.obeys.append_quiet fun e he hmem =>
    hn _ (List.mem_append_right _ hmem) (hk e he)
  rw [← hnew] at hquiet
  constructor
  · exact hP _ _ (fun part hpart =>
      hf.part (hn _ (List.mem_append_left _ (List.mem_map_of_mem hpart)))) h.request
  · rw [hf.binding (hn _ (List.mem_append_right _ (by decide)))]
    exact h.signer
  · rw [hquiet.2, h.pending]
  · exact hquiet.1

/-- Whatever does nothing to the request leaves a call where it is. -/
theorem midway_dependsOn_request :
    DependsOn (anyRequest ++ attemptEffects) (Midway touch o pending P) :=
  midway_dependsOn RequestPart.all fun r r' hs h => by rwa [RequestPart.eq_of_spares hs]

/-- Between two attempts only method and body matter. -/
theorem midway_dependsOn_body : DependsOn ([.request .method, .request .body] ++ attemptEffects)
    (Midway touch o pending (Returnable o)) := by
  refine midway_dependsOn [.method, .body] fun r r' hs h => ?_
  have hmethod : r'.method = r.method := hs .method (by decide)
  have hbody : r'.body = r.body := hs .body (by decide)
  constructor
  · rw [hmethod, h.method]
  · rw [hbody]
    exact h.alike
  · rw [hbody]
    exact h.rewinds

theorem Midway.mono {Q : HttpRequest σ → Prop} (h : Midway touch o pending P run)
    (hPQ : ∀ r, P r → Q r) : Midway touch o pending Q run :=
  ⟨hPQ _ h.request, h.signer, h.pending, h.obeys⟩

theorem Midway.givesUp_of_code (h : Midway touch o pending P run) (he : e.code ≠ .streamReset) :
    GivesUp touch o e run :=
  ⟨h.obeys, fun hcode => absurd hcode he⟩

/-- When no attempt is pending, nothing has to go back. -/
theorem Midway.givesUp (h : Midway touch o none P run) : GivesUp touch o e run :=
  ⟨h.obeys, fun _ hne => absurd h.pending hne⟩

theorem GivesUp.frame (h : GivesUp touch o e run) (hf : Frame effects run run')
    (hn : ∀ effect ∈ .request .body :: attemptEffects, effect ∉ effects) :
    GivesUp touch o e run' := by
  obtain ⟨new, hnew, hk⟩ := hf.journal
  have hquiet := h.obeys.append_quiet fun e he hmem => hn _ (.tail _ hmem) (hk e he)
  have hbody : run'.request.body = run.request.body := hf.part (hn (.request .body) (.head _))
  rw [← hnew] at hquiet
  refine ⟨hquiet.1, ?_⟩
  rw [hquiet.2, hbody]
  exact h.overread

end

end ServiceCall
