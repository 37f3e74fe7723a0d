import ServiceCall.Proofs.Call.Together

/-!
What a call makes of an answer, and what it does at its ends, keeps a pair of runs together. A
turn that pays for a retry takes from the limited pool what was held for it.
-/

namespace ServiceCall

variable {σ α β γ : Type} {Same : σ → σ → Prop}

/-- What comes back to a pool is not missed by the other one. -/
theorem Twins.release {cost n : Nat} {run run' : Run σ} (h : Twins Same cost n run run')
    (count : Nat) :
    Twins Same cost n
      { run with client := { run.client with pool := run.client.pool.release count } }
      { run' with client := { run'.client with pool := run'.client.pool.release count } } := by
  obtain ⟨maximum, available, hholds, hample⟩ := h.pool
  have hwithin : available ≤ maximum := hholds.1
  refine { h with client := ?_, pool := ⟨maximum, _, hholds.release count, ?_⟩ }
  · rw [h.client]
    rfl
  · exact Nat.le_min.mpr ⟨Nat.le_add_right_of_le hample, Nat.le_trans hample hwithin⟩

/-- The outcome is the same, and whoever is to sign because of it does not look at the
difference. -/
def Outcome.Alike {authAllowed : Bool} (Same : σ → σ → Prop) (o o' : Outcome σ α authAllowed) :
    Prop := o' = o ∧ o.Fine Same

namespace CallM

variable {s : CallSetting σ α} {cost n : Nat} {authAllowed : Bool}

/-! ### Success -/

theorem remember_inStep (metadata : Option Metadata) :
    InStep Same cost n Eq (remember metadata : CallM σ Unit) (remember metadata) := by
  unfold remember
  split
  · refine .update fun run run' hruns => { hruns with client := ?_ }
    rw [hruns.client, hruns.request.subject]
  · exact .pure rfl

theorem returnCapacity_inStep : InStep Same cost n Eq (returnCapacity s) (returnCapacity s) := by
  unfold returnCapacity
  refine .get fun run run' hruns => ?_
  rw [hruns.tookCapacity]
  exact .thenEq (.record rfl) fun _ => .update fun run run' hruns => hruns.release _

theorem complete_inStep (status : Status) (handled : Handled α) (r : HttpResponse) :
    InStep Same cost n Eq (complete s status handled r) (complete s status handled r) :=
  .thenEq (remember_inStep _) fun _ => .thenEq returnCapacity_inStep fun _ =>
    .thenEq (announce_inStep _) fun _ => .pure rfl

section Asking

variable (hs : s.client.Indifferent Same s.handlers s.context)

include hs

theorem indifferent_of_place {place : Hook σ × Nat} (h : place ∈ s.context.hooks.zipIdx) :
    place.1.Indifferent Same := hs.hooks _ (List.fst_mem_of_mem_zipIdx h)

theorem beforeUnmarshal_inStep (r : HttpResponse) :
    InStep Same cost n Eq (beforeUnmarshal s r) (beforeUnmarshal s r) := by
  refine .foldlM (fun place hplace r => .thenEq (.record rfl) fun _ =>
    .request fun q q' hq => .perform ?_) r
  exact (indifferent_of_place hs (List.mem_reverse.mp hplace)).beforeUnmarshal q q' r hq

theorem handleResult_inStep (status : Status) (reason : Option String) (r : HttpResponse) :
    InStep Same cost n (Outcome.Alike Same)
      (handleResult s status reason r : CallM σ (Outcome σ α authAllowed))
      (handleResult s status reason r) := by
  unfold handleResult
  refine .thenEq (.record rfl) fun _ => .thenEq (.perform (hs.handle r)) fun answer => ?_
  split
  · exact .thenEq (complete_inStep _ _ _) fun response => .pure ⟨rfl, trivial⟩
  · exact .throw _
  · exact .pure ⟨rfl, trivial⟩
  · exact .throw _

theorem onSuccess_inStep (r : HttpResponse) :
    InStep Same cost n (Outcome.Alike Same) (onSuccess s r : CallM σ (Outcome σ α authAllowed))
      (onSuccess s r) := by
  have hread : ∀ read : HttpResponse,
      InStep Same cost n (Outcome.Alike Same)
        (do handleResult s read.status read.reason (← beforeUnmarshal s read) :
          CallM σ (Outcome σ α authAllowed))
        (do handleResult s read.status read.reason (← beforeUnmarshal s read)) :=
    fun read => .thenEq (beforeUnmarshal_inStep hs read) fun r => handleResult_inStep hs _ _ r
  unfold onSuccess
  split
  next buffered read _ =>
    split
    · exact .pure ⟨rfl, trivial⟩
    · refine .thenEq (announce_inStep _) fun _ => ?_
      split
      · exact .thenEq (announce_inStep _) fun _ => hread read
      · exact hread read

end Asking

/-! ### Redirects and failures -/

theorem onRedirect_inStep (location : String) :
    InStep Same cost n (Outcome.Alike Same)
      (onRedirect location : CallM σ (Outcome σ α authAllowed)) (onRedirect location) := by
  unfold onRedirect
  refine .request fun r r' hr => ?_
  rw [hr.body, hr.subject, hr.fullUri]
  refine .ite (.pure ⟨rfl, trivial⟩) ?_
  split
  · exact .pure ⟨rfl, trivial⟩
  · exact .throw _

theorem transportFailure_alike {r r' : HttpRequest σ} (h : r.Alike Same r') (e : TransportError)
    (limit : Option Duration) : transportFailure e limit r' = transportFailure e limit r := by
  cases e with
  | timeout => rw [transportFailure, transportFailure, h.method, h.loggedUri]
  | io kind source => rw [transportFailure, transportFailure, h.method, h.loggedUri]

theorem countThrottle_inStep (e : ServiceError) :
    InStep Same cost n Eq (countThrottle s e) (countThrottle s e) :=
  .ite (.thenEq (.count _) fun _ => .countForClient s _) (.pure rfl)

section Asking

variable (hs : s.client.Indifferent Same s.handlers s.context)

include hs

theorem correctClock_inStep (headers : Headers) (e : ServiceError) :
    InStep Same cost n Eq (correctClock s headers e) (correctClock s headers e) := by
  unfold correctClock
  refine .ite (.thenEq (.perform hs.timeOfDay) fun now => .thenEq (.record rfl) fun _ => ?_)
    (.pure rfl)
  refine .get fun run run' hruns => ?_
  rw [show run'.client.clockOffset = run.client.clockOffset by rw [hruns.client]]
  split
  next offset correction hcorrect =>
    refine .thenEq (.update fun run run' hruns => { hruns with client := ?_ }) fun _ =>
      .ite (.pure rfl) (.thenEq (.revise fun r r' hr => ?_) fun _ => .countForClient s _)
    · rw [hruns.client]
    · exact hr.withTimeOffset correction

theorem askAuthRetry_inStep (e : ServiceError) :
    InStep Same cost n (Outcome.Alike Same) (askAuthRetry s e : CallM σ (Outcome σ α authAllowed))
      (askAuthRetry s e) := by
  unfold askAuthRetry
  split
  · exact .pure ⟨rfl, trivial⟩
  · next rule hrule =>
    have hrules := hs.authRetry rule hrule
    refine .request fun r r' hr => ?_
    by_cases hallowed : r.body.isRepeatable = true ∧ authAllowed = true
    · rw [dif_pos hallowed, dif_pos (hr.body ▸ hallowed)]
      have hanswer : InStep Same cost n _ (perform (rule r e)) (perform (rule r' e)) :=
        .performWith (Q := fun answer => ∀ parameters signer, answer = some parameters →
          parameters.signer = some signer → signer.Indifferent Same)
          (hrules.agree r r' e hr) (hrules.signer r e)
      refine hanswer.bind ?_ fun _ _ h => h
      rintro _ answer ⟨rfl, hsigner⟩
      refine .thenEq (.record rfl) fun _ => ?_
      cases answer with
      | none => exact .pure ⟨rfl, trivial⟩
      | some parameters => exact .pure ⟨rfl, fun signer => hsigner parameters signer rfl⟩
    · rw [dif_neg hallowed, dif_neg (hr.body ▸ hallowed)]
      exact .pure ⟨rfl, trivial⟩

theorem readFailure_inStep (r : HttpResponse) :
    InStep Same cost n Eq (readFailure s r) (readFailure s r) := by
  unfold readFailure
  refine .thenEq (.perform (hs.handleError r)) fun answer => ?_
  split
  refine .request fun q q' hq => ?_
  rw [hq.subject]
  exact .pure rfl

theorem onFailureResponse_inStep (r : HttpResponse) :
    InStep Same cost n (Outcome.Alike Same)
      (onFailureResponse s r : CallM σ (Outcome σ α authAllowed)) (onFailureResponse s r) := by
  unfold onFailureResponse
  refine .thenEq (readFailure_inStep hs r) fun answer => ?_
  split
  · exact .ite (.pure ⟨rfl, trivial⟩) (.throw _)
  · exact .thenEq (countThrottle_inStep _) fun _ => .thenEq (correctClock_inStep hs _ _) fun _ =>
      askAuthRetry_inStep hs _

/-! ### Attempts -/

theorem onResponse_inStep (r : HttpResponse) :
    InStep Same cost n (Outcome.Alike Same) (onResponse s r : CallM σ (Outcome σ α authAllowed))
      (onResponse s r) := by
  unfold onResponse
  refine .thenEq (announce_inStep _) fun _ => .thenEq (.record rfl) fun _ =>
    .thenEq (.count _) fun _ => .ite (onSuccess_inStep hs r) ?_
  split
  · exact onRedirect_inStep _
  · exact onFailureResponse_inStep hs r

theorem onNoResponse_inStep (e : TransportError) (limit : Option Duration) :
    InStep Same cost n (Outcome.Alike Same)
      (onNoResponse s e limit : CallM σ (Outcome σ α authAllowed)) (onNoResponse s e limit) := by
  unfold onNoResponse
  refine .thenEq (timeIsUp_inStep hs) fun _ =>
    check_inStep (fun _ _ => deadlineExceeded_alike) (.request fun r r' hr => ?_)
  rw [transportFailure_alike hr]
  exact .pure ⟨rfl, trivial⟩

theorem exchange_inStep :
    InStep Same cost n (Outcome.Alike Same) (exchange s : CallM σ (Outcome σ α authAllowed))
      (exchange s) := by
  unfold exchange
  refine .thenEq (exchangeLimit_inStep hs) fun limit => .thenEq (announce_inStep _) fun _ =>
    .thenEq (dispatch_inStep hs limit) fun answer => ?_
  split
  · exact onResponse_inStep hs _
  · exact onNoResponse_inStep hs _ limit

theorem attempt_inStep {directive : Directive σ} (hd : directive.Fine Same) (number : Nat) :
    InStep Same cost n (Outcome.Alike Same)
      (attempt s directive number : CallM σ (Outcome σ α authAllowed))
      (attempt s directive number) := by
  refine .thenEq (approach_inStep hs directive number) fun credentials =>
    .thenEq (stampRetryHeader_inStep number) fun _ => ?_
  refine (bindSigner_inStep hs hd).bind ?_ fun _ _ h => h
  rintro _ signer ⟨rfl, hsigner⟩
  exact .thenEq (signWith_inStep hsigner credentials) fun _ => exchange_inStep hs

end Asking

/-! ### Between attempts -/

theorem replaceBody_inStep (next : Body → Except IoError Body) :
    InStep Same cost n Eq
      (do
        let body ← CallM.ofExcept .streamReset (next (← request).body)
        revise fun r => { r with body } : CallM σ Unit)
      (do
        let body ← CallM.ofExcept .streamReset (next (← request).body)
        revise fun r => { r with body }) := by
  refine .request fun r r' hr => ?_
  rw [hr.body]
  exact .thenEq (.ofExcept_self _ _) fun body => .revise fun _ _ hr => hr.withBody body

theorem markBody_inStep : InStep Same cost n Eq (markBody : CallM σ Unit) markBody :=
  replaceBody_inStep Body.mark

theorem resetBody_inStep : InStep Same cost n Eq (resetBody : CallM σ Unit) resetBody :=
  replaceBody_inStep Body.reset

theorem direct_inStep (directive : Directive σ) :
    InStep Same cost n Eq (direct directive) (direct directive) := by
  unfold direct
  split
  · next target =>
    split
    · next endpoint _ =>
      exact .revise fun r r' hr => hr.revise
        (f := fun r => { r with endpoint, path := target.path, redirectTarget := some target })
        (fun _ => rfl) fun _ => rfl
    · exact .throw _
  · split
    · next endpoint _ =>
      exact .revise fun r r' hr =>
        hr.revise (f := fun r => { r with endpoint }) (fun _ => rfl) fun _ => rfl
    · exact .pure rfl
  · exact .pure rfl
  · exact .pure rfl

theorem restore_alike {o o' : Origin} (ho : o.Alike o') {r r' : HttpRequest σ}
    (hr : r.Alike Same r') : (o.restore r).Alike Same (o'.restore r') := by
  have hrest := hr.revise
    (f := fun r => { r with parameters := o.parameters, redirectTarget := none })
    (fun _ => rfl) fun _ => rfl
  rw [Origin.restore, Origin.restore, ho.parameters]
  exact hrest.withHeaders ho.headers

theorem prepare_inStep {o o' : Origin} (ho : o.Alike o') (directive : Directive σ) :
    InStep Same cost n Eq (prepare o directive) (prepare o' directive) := by
  have hmark : InStep Same cost n Eq
      (do if (← request).body.isRemarked then markBody : CallM σ Unit)
      (do if (← request).body.isRemarked then markBody) := by
    refine .request fun r r' hr => ?_
    rw [hr.body]
    exact .ite markBody_inStep (.pure rfl)
  unfold prepare
  refine .ite hmark (.thenEq (.revise fun r r' hr => restore_alike ho hr) fun _ => ?_)
  exact .thenEq resetBody_inStep fun _ => .thenEq (direct_inStep directive) fun _ => hmark

theorem startAttempt_inStep (directive : Directive σ) (number : Nat) :
    InStep Same cost n Eq (startAttempt s directive number) (startAttempt s directive number) :=
  .thenEq (.record rfl) fun _ => .thenEq (.count _) fun _ => .countForClient s _

/-! ### Before and after the attempts -/

theorem stampAll_inStep (fields : List (String × String)) :
    InStep Same cost n Eq (stampAll fields : CallM σ Unit) (stampAll fields) := by
  induction fields with
  | nil => exact .pure rfl
  | cons field fields ih => exact .thenEq (stampHeader_inStep _ _) fun _ => ih

theorem addCustomParameters_alike (p : Parameters) {r r' : HttpRequest σ} (hr : r.Alike Same r') :
    (addCustomParameters p r).Alike Same (addCustomParameters p r') := by
  refine hr.foldl (fun r r' entry hr => ?_) _
  refine hr.foldl (fun r r' value hr => ?_) _
  exact hr.revise (f := fun r => r.addParameter entry.1 value) (fun _ => rfl) fun _ => rfl

theorem begin_inStep {listener : Option (MilestoneListener σ)}
    (hl : ∀ tell, listener = some tell → ∀ event, Steady Same (tell event)) :
    InStep Same cost n Eq (begin s listener) (begin s listener) := by
  unfold begin
  refine .thenEq (.countForClient s _) fun _ => .thenEq (announceTo_inStep hl _) fun _ =>
    .request fun r r' hr => ?_
  rw [hr.body]
  split
  · exact announceTo_inStep hl _
  · exact .pure rfl

section Asking

variable (hs : s.client.Indifferent Same s.handlers s.context)

include hs

theorem enrich_inStep : InStep Same cost n Eq (enrich s) (enrich s) := by
  unfold enrich
  refine .request fun r r' hr => ?_
  rw [hr.subject]
  exact .thenEq (stampAll_inStep _) fun _ =>
    .thenEq (.revise fun r r' hr => addCustomParameters_alike _ hr) fun _ =>
      .thenEq (.perform hs.invocationId) fun id => .thenEq (stampHeader_inStep _ id) fun _ =>
        stampHeader_inStep _ _

theorem beforeSend_inStep : InStep Same cost n Eq (beforeSend s) (beforeSend s) := by
  refine .forM fun place hplace => .thenEq (.record rfl) fun _ => .performOnRequest ?_
  intro r r' world world' hr hworld
  obtain ⟨hrequest, hleft⟩ :=
    (indifferent_of_place hs hplace).beforeSend r r' world world' hr hworld
  exact ⟨rfl, hrequest, hleft⟩

theorem afterResponse_inStep (response : Response α) :
    InStep Same cost n Eq (afterResponse s response) (afterResponse s response) := by
  refine .forM fun place hplace => .thenEq (.record rfl) fun _ =>
    .request fun r r' hr => .perform ?_
  exact (indifferent_of_place hs (List.mem_reverse.mp hplace)).afterResponse _ _ _ _ hr

theorem afterError_inStep (e : Error) :
    InStep Same cost n Eq (afterError s e) (afterError s e) := by
  refine .forM fun place hplace => .thenEq (.record rfl) fun _ =>
    .request fun r r' hr => .perform ?_
  exact (indifferent_of_place hs (List.mem_reverse.mp hplace)).afterError _ _ _ hr

theorem finish_inStep {listener : Option (MilestoneListener σ)}
    (hl : ∀ tell, listener = some tell → ∀ event, Steady Same (tell event))
    (result : Except Error (Response α)) :
    InStep Same cost n Eq (finish s listener result) (finish s listener result) := by
  cases result with
  | ok response =>
    refine .thenEq (afterResponse_inStep hs response) fun _ =>
      .thenEq (announceTo_inStep hl _) fun _ => .get fun run run' hruns => ?_
    rw [hruns.metrics]
    exact .countForClient s _
  | error e =>
    exact .thenEq (afterError_inStep hs e) fun _ => .thenEq (announceTo_inStep hl _) fun _ =>
      .countForClient s _

theorem collect_inStep : InStep Same cost n Eq (collect s) (collect s) := by
  unfold collect
  split
  · next tell htell =>
    refine .get fun run run' hruns => ?_
    rw [hruns.metrics]
    exact .perform (hs.collector tell htell _)
  · exact .pure rfl

end Asking

end CallM

end ServiceCall
