import ServiceCall.Proofs.Capacity.Ledger
import ServiceCall.Proofs.Capacity.Masking

/-!
Pairs of runs. One run takes what its retries cost from a limited pool that holds enough for some
of them, the other one from a pool without limit; beside the pools they differ in nothing but
what requests tell of them. Each way to build an action keeps a pair of runs together, if the
collaborators do not look at the difference.
-/

namespace ServiceCall

variable {σ α β γ : Type} {Same : σ → σ → Prop}

/-! ### Collaborators -/

/-- Requests that are alike stay so, and the answer is the same. -/
def Handles (Same : σ → σ → Prop) (act : HttpRequest σ → StateM σ (β × HttpRequest σ)) : Prop :=
  ∀ r r' world world', r.Alike Same r' → Same world world' →
    (act r' world').1.1 = (act r world).1.1 ∧
      (act r world).1.2.Alike Same (act r' world').1.2 ∧ Same (act r world).2 (act r' world').2

def Signer.Indifferent (Same : σ → σ → Prop) (signer : Signer σ) : Prop :=
  ∀ credentials, Handles Same fun r => signer.sign r credentials

/-- What a hook answers, and what it leaves of a request, is alike for requests that are alike. -/
structure Hook.Indifferent (Same : σ → σ → Prop) (hook : Hook σ) : Prop where
  beforeSend : ∀ r r' world world', r.Alike Same r' → Same world world' →
    (hook.beforeSend r world).1.Alike Same (hook.beforeSend r' world').1 ∧
      Same (hook.beforeSend r world).2 (hook.beforeSend r' world').2
  beforeUnmarshal : ∀ r r' response, r.Alike Same r' →
    Agree Same (hook.beforeUnmarshal r response) (hook.beforeUnmarshal r' response)
  afterResponse : ∀ r r' status headers, r.Alike Same r' →
    Agree Same (hook.afterResponse r status headers) (hook.afterResponse r' status headers)
  afterError : ∀ r r' e, r.Alike Same r' → Agree Same (hook.afterError r e) (hook.afterError r' e)

/-- A rule that lets requests be sent again answers the same, and whoever is to sign them then
does not look at the difference either. -/
structure AuthRetryRule.Indifferent (Same : σ → σ → Prop) (rule : AuthRetryRule σ) : Prop where
  agree : ∀ r r' e, r.Alike Same r' → Agree Same (rule r e) (rule r' e)
  signer : ∀ r e world parameters signer, (rule r e world).1 = some parameters →
    parameters.signer = some signer → signer.Indifferent Same

/-- No collaborator of a call looks at the difference between requests that are alike, or between
worlds that are. -/
structure Client.Indifferent (Same : σ → σ → Prop) (c : Client σ) (handlers : Handlers σ α)
    (context : CallContext σ) : Prop where
  now : Steady Same c.surroundings.now
  timeOfDay : Steady Same c.surroundings.timeOfDay
  invocationId : Steady Same c.surroundings.invocationId
  isCancelled : Steady Same (c.surroundings.isCancelled context.cancel)
  pause : ∀ wait, Steady Same (c.surroundings.pause context.cancel wait)
  condition : ∀ failed, Steady Same (c.config.retryPolicy.condition failed)
  backoff : ∀ failed, Steady Same (c.config.retryPolicy.backoff failed)
  send : ∀ limit, Handles Same fun r => c.transport.send r limit
  collector : ∀ tell, c.collector = some tell → ∀ m, Steady Same (tell m)
  credentials : ∀ source, context.credentials = some source → Steady Same source
  signers : ∀ address, Steady Same (context.signers address)
  signer : ∀ address world signer, (context.signers address world).1 = some signer →
    signer.Indifferent Same
  hooks : ∀ hook ∈ context.hooks, hook.Indifferent Same
  authRetry : ∀ rule, context.authRetry = some rule → AuthRetryRule.Indifferent Same rule
  handle : ∀ r, Steady Same (handlers.response.handle r)
  handleError : ∀ r, Steady Same (handlers.error r)

/-! ### Runs -/

/-- The pool of the first run holds enough for `n` retries, that of the second one is unlimited. -/
structure Twins (Same : σ → σ → Prop) (cost n : Nat) (run run' : Run σ) : Prop where
  world : Same run.world run'.world
  request : run.request.Alike Same run'.request
  metrics : run'.metrics = run.metrics
  tookCapacity : run'.tookCapacity = run.tookCapacity
  binding : run'.binding = run.binding
  signer : ∀ signer, run.binding.signer? = some signer → signer.Indifferent Same
  lastBackoff : run'.lastBackoff = run.lastBackoff
  journal : run'.journal.map Event.masked = run.journal.map Event.masked
  client : run'.client = { run.client with pool := .unlimited }
  pool : ∃ maximum available, run.client.pool.Holds maximum available ∧ n * cost ≤ available

theorem Twins.mono {cost n m : Nat} {run run' : Run σ} (h : Twins Same cost n run run')
    (hle : m ≤ n) : Twins Same cost m run run' := by
  obtain ⟨maximum, available, hholds, hample⟩ := h.pool
  exact { h with pool := ⟨maximum, available, hholds,
    Nat.le_trans (Nat.mul_le_mul_right cost hle) hample⟩ }

namespace CallM

/-! ### Actions -/

/-- Two actions have ended in the same way. -/
inductive EndAlike (R : Run σ → Run σ → Prop) (V : β → β → Prop) :
    EStateM.Result Error (Run σ) β → EStateM.Result Error (Run σ) β → Prop
  | ok {value value' : β} {run run' : Run σ} (hvalue : V value value') (hruns : R run run') :
    EndAlike R V (.ok value run) (.ok value' run')
  | error {e : Error} {run run' : Run σ} (hruns : R run run') :
    EndAlike R V (.error e run) (.error e run')

/-- From a pair of runs the two actions lead to a pair of runs. -/
structure Matches (R R' : Run σ → Run σ → Prop) (V : β → β → Prop) (act act' : CallM σ β) :
    Prop where
  ends : ∀ run run', R run run' → EndAlike R' V (act run) (act' run')

/-- The two actions keep a pair of runs together. -/
abbrev InStep (Same : σ → σ → Prop) (cost n : Nat) (V : β → β → Prop) (act act' : CallM σ β) :
    Prop := Matches (Twins Same cost n) (Twins Same cost n) V act act'

namespace Matches

variable {R R' R'' : Run σ → Run σ → Prop} {V : β → β → Prop} {W : γ → γ → Prop}
  {act act' : CallM σ β} {f f' : β → CallM σ γ} {cost n : Nat}

theorem pure {value value' : β} (h : V value value') :
    Matches R R V (Pure.pure value) (Pure.pure value') := ⟨fun _ _ hruns => .ok h hruns⟩

theorem throw (e : Error) : Matches R R V (MonadExcept.throw e) (MonadExcept.throw e) :=
  ⟨fun _ _ hruns => .error hruns⟩

theorem cases (h : Matches R R' V act act') {run run' : Run σ} (hruns : R run run') :
    (∃ value value' last last', act run = .ok value last ∧ act' run' = .ok value' last' ∧
      V value value' ∧ R' last last') ∨
    ∃ e last last', act run = .error e last ∧ act' run' = .error e last' ∧ R' last last' := by
  have hends := h.ends run run' hruns
  generalize act run = ended at hends ⊢
  generalize act' run' = ended' at hends ⊢
  cases hends with
  | ok hvalue hruns => exact .inl ⟨_, _, _, _, rfl, rfl, hvalue, hruns⟩
  | error hruns => exact .inr ⟨_, _, _, rfl, rfl, hruns⟩

theorem bind (h : Matches R R' V act act')
    (hf : ∀ value value', V value value' → Matches R' R'' W (f value) (f' value'))
    (hR : ∀ run run', R' run run' → R'' run run') : Matches R R'' W (act >>= f) (act' >>= f') := by
  refine ⟨fun run run' hruns => ?_⟩
  simp only [Bind.bind, EStateM.bind]
  rcases h.cases hruns with ⟨value, value', last, last', hact, hact', hvalue, hruns⟩ |
    ⟨e, last, last', hact, hact', hruns⟩
  · rw [hact, hact']
    exact (hf _ _ hvalue).ends _ _ hruns
  · rw [hact, hact']
    exact .error (hR _ _ hruns)

/-- Whatever the first action comes to, it is the same for both. -/
theorem thenEq (h : Matches R R Eq act act') (hf : ∀ value, Matches R R W (f value) (f' value)) :
    Matches R R W (act >>= f) (act' >>= f') := by
  refine h.bind (fun value value' heq => ?_) fun _ _ h => h
  rw [← heq]
  exact hf value

theorem ite {c : Prop} [Decidable c] {other other' : CallM σ β} (h : Matches R R' V act act')
    (h' : Matches R R' V other other') :
    Matches R R' V (if c then act else other) (if c then act' else other') := by
  split
  · exact h
  · exact h'

/-- What has been held for more retries is enough for fewer. -/
theorem lower {m : Nat} (h : InStep Same cost n V act act') (hle : m ≤ n) :
    Matches (Twins Same cost n) (Twins Same cost m) V act act' := by
  refine ⟨fun run run' hruns => ?_⟩
  rcases h.cases hruns with ⟨value, value', last, last', hact, hact', hvalue, hruns⟩ |
    ⟨e, last, last', hact, hact', hruns⟩
  · rw [hact, hact']
    exact .ok hvalue (hruns.mono hle)
  · rw [hact, hact']
    exact .error (hruns.mono hle)

/-- Failures are undone alike. -/
theorem onFailure {undo undo' : Run σ → Run σ} (h : Matches R R' V act act')
    (hundo : ∀ run run', R' run run' → R' (undo run) (undo' run')) :
    Matches R R' V (CallM.onFailure act undo) (CallM.onFailure act' undo') := by
  refine ⟨fun run run' hruns => ?_⟩
  unfold CallM.onFailure
  rcases h.cases hruns with ⟨value, value', last, last', hact, hact', hvalue, hruns⟩ |
    ⟨e, last, last', hact, hact', hruns⟩
  · rw [hact, hact']
    exact .ok hvalue hruns
  · rw [hact, hact']
    exact .error (hundo _ _ hruns)

/-- What is the same for both is so as a value, too. -/
theorem settle (h : Matches R R' Eq act act') :
    Matches R R' Eq (CallM.settle act) (CallM.settle act') := by
  refine ⟨fun run run' hruns => ?_⟩
  unfold CallM.settle
  rcases h.cases hruns with ⟨value, value', last, last', hact, hact', hvalue, hruns⟩ |
    ⟨e, last, last', hact, hact', hruns⟩
  · rw [hact, hact']
    exact .ok (congrArg Except.ok hvalue) hruns
  · rw [hact, hact']
    exact .ok rfl hruns

/-- Loops whose rounds keep the runs together. -/
theorem foldlM {δ : Type} {round : γ → δ → CallM σ γ} {l : List δ}
    (h : ∀ d ∈ l, ∀ value, Matches R R Eq (round value d) (round value d)) (value : γ) :
    Matches R R Eq (l.foldlM round value) (l.foldlM round value) := by
  induction l generalizing value with
  | nil => exact .pure rfl
  | cons d l ih =>
    rw [List.foldlM_cons]
    exact .thenEq (h d (.head _) value) fun value => ih (fun d hd => h d (.tail _ hd)) value

theorem forM {δ : Type} {round : δ → CallM σ Unit} {l : List δ}
    (h : ∀ d ∈ l, Matches R R Eq (round d) (round d)) :
    Matches R R Eq (l.forM round) (l.forM round) := by
  induction l with
  | nil => exact .pure rfl
  | cons d l ih => exact .thenEq (h d (.head _)) fun _ => ih fun d hd => h d (.tail _ hd)

theorem update {g g' : Run σ → Run σ} (h : ∀ run run', R run run' → R' (g run) (g' run')) :
    Matches R R' Eq (modify g : CallM σ Unit) (modify g') :=
  ⟨fun run run' hruns => .ok rfl (h run run' hruns)⟩

/-- What is done with the request is done with requests that are alike. -/
theorem request {f f' : HttpRequest σ → CallM σ γ}
    (hf : ∀ r r', r.Alike Same r' → Matches (Twins Same cost n) R W (f r) (f' r')) :
    Matches (Twins Same cost n) R W (CallM.request >>= f) (CallM.request >>= f') :=
  ⟨fun run run' hruns => (hf _ _ hruns.request).ends run run' hruns⟩

/-- What is done with the run is done with a pair of runs. -/
theorem get {f f' : Run σ → CallM σ γ}
    (hf : ∀ run run', Twins Same cost n run run' →
      Matches (Twins Same cost n) R W (f run) (f' run')) :
    Matches (Twins Same cost n) R W (MonadState.get >>= f) (MonadState.get >>= f') :=
  ⟨fun run run' hruns => (hf run run' hruns).ends run run' hruns⟩

theorem record {e e' : Event σ} (h : e'.masked = e.masked) :
    InStep Same cost n Eq (CallM.record e) (CallM.record e') := by
  refine ⟨fun run run' hruns => .ok rfl { hruns with journal := ?_ }⟩
  rw [List.map_append, List.map_append, hruns.journal, List.map_singleton, List.map_singleton, h]

theorem perform {act act' : StateM σ β} (h : Agree Same act act') :
    InStep Same cost n Eq (CallM.perform act) (CallM.perform act') := by
  refine ⟨fun run run' hruns => ?_⟩
  obtain ⟨hvalue, hworld⟩ := h _ _ hruns.world
  exact .ok hvalue.symm { hruns with world := hworld }

/-- What is known of every answer is known of this one. -/
theorem performWith {act act' : StateM σ β} {Q : β → Prop} (h : Agree Same act act')
    (hQ : ∀ world, Q (act world).1) :
    InStep Same cost n (fun value value' => value' = value ∧ Q value) (CallM.perform act)
      (CallM.perform act') := by
  refine ⟨fun run run' hruns => ?_⟩
  obtain ⟨hvalue, hworld⟩ := h _ _ hruns.world
  exact .ok ⟨hvalue, hQ run.world⟩ { hruns with world := hworld }

theorem revise {g g' : HttpRequest σ → HttpRequest σ}
    (h : ∀ r r', r.Alike Same r' → (g r).Alike Same (g' r')) :
    InStep Same cost n Eq (CallM.revise g) (CallM.revise g') :=
  ⟨fun _ _ hruns => .ok rfl { hruns with request := h _ _ hruns.request }⟩

theorem performOnRequest {act : HttpRequest σ → StateM σ (β × HttpRequest σ)}
    (h : Handles Same act) :
    InStep Same cost n Eq (CallM.performOnRequest act)
      (CallM.performOnRequest act) := by
  refine ⟨fun run run' hruns => ?_⟩
  obtain ⟨hvalue, hrequest, hworld⟩ := h _ _ _ _ hruns.request hruns.world
  exact .ok hvalue.symm { hruns with world := hworld, request := hrequest }

theorem count (g : CallMetrics → CallMetrics) :
    InStep Same cost n Eq (CallM.count g) (CallM.count g) :=
  ⟨fun _ _ hruns => .ok rfl { hruns with metrics := congrArg g hruns.metrics }⟩

theorem countForClient (s : CallSetting σ α) (g : ClientMetrics → ClientMetrics) :
    InStep Same cost n Eq (CallM.countForClient s g)
      (CallM.countForClient s g) := by
  refine ⟨fun run run' hruns => ?_⟩
  unfold CallM.countForClient
  split
  · refine .ok rfl { hruns with client := ?_ }
    rw [hruns.client]
  · exact .ok rfl hruns

theorem ofExcept {ε : Type} (name : ε → Error) {x x' : Except ε β}
    (h : (∃ e, x = .error e ∧ x' = .error e) ∨
      ∃ value value', x = .ok value ∧ x' = .ok value' ∧ V value value') :
    Matches R R V (CallM.ofExcept name x) (CallM.ofExcept name x') := by
  rcases h with ⟨e, rfl, rfl⟩ | ⟨value, value', rfl, rfl, hvalue⟩
  · exact ⟨fun _ _ hruns => .error hruns⟩
  · exact ⟨fun _ _ hruns => .ok hvalue hruns⟩

theorem ofExcept_self {ε : Type} (name : ε → Error) (x : Except ε β) :
    Matches R R Eq (CallM.ofExcept name x) (CallM.ofExcept name x) := by
  cases x with
  | ok value => exact .ofExcept name (.inr ⟨value, value, rfl, rfl, rfl⟩)
  | error e => exact .ofExcept name (.inl ⟨e, rfl, rfl⟩)

end Matches

end CallM

end ServiceCall
