import ServiceCall.Proofs.Attempts.Restoration
import ServiceCall.Proofs.Call.Pairs

/-!
The actions of which a call is made keep a pair of runs together: neither what they do nor what
they answer depends on the pool, as long as it holds enough.
-/

namespace ServiceCall

variable {σ α β γ : Type} {Same : σ → σ → Prop}

/-- Whoever is to sign does not look at the difference. -/
def SignsAlike (Same : σ → σ → Prop) (signer : Option (Signer σ)) : Prop :=
  ∀ s, signer = some s → s.Indifferent Same

/-- Whoever is to sign because of the directive does not look at the difference. -/
def Directive.Fine (Same : σ → σ → Prop) : Directive σ → Prop
  | .authRetry parameters => SignsAlike Same parameters.signer
  | .start => True
  | .retry _ => True
  | .redirect _ => True

def Outcome.Fine {authAllowed : Bool} (Same : σ → σ → Prop) : Outcome σ α authAllowed → Prop
  | .authRetry parameters _ => SignsAlike Same parameters.signer
  | .success _ => True
  | .redirect _ => True
  | .retryable _ => True

/-- The origins differ in nothing but what their header fields tell of the capacity. -/
structure Origin.Alike (o o' : Origin) : Prop where
  headers : o'.headers.masked = o.headers.masked
  parameters : o'.parameters = o.parameters
  repeatable : o'.repeatable = o.repeatable

namespace CallM

variable {s : CallSetting σ α} {cost n : Nat}

/-! ### Milestones, header fields and signatures -/

theorem announceTo_inStep {listener : Option (MilestoneListener σ)}
    (hl : ∀ tell, listener = some tell → ∀ event, Steady Same (tell event)) (event : Milestone) :
    InStep Same cost n Eq (announceTo listener event) (announceTo listener event) := by
  unfold announceTo
  refine .thenEq (.record rfl) fun _ => ?_
  cases listener with
  | none => exact .pure rfl
  | some tell => exact .perform (hl tell rfl event)

theorem announce_inStep (event : Milestone) :
    InStep Same cost n Eq (announce event : CallM σ Unit) (announce event) := by
  refine .request fun r r' hr => ?_
  rw [hr.subject]
  exact announceTo_inStep hr.listener event

theorem deadlineExceeded_alike {r r' : HttpRequest σ} (h : r.Alike Same r') :
    deadlineExceeded s r' = deadlineExceeded s r := by
  rw [deadlineExceeded, deadlineExceeded, h.method, h.loggedUri]

theorem interrupted_alike {r r' : HttpRequest σ} (h : r.Alike Same r') :
    interrupted r' = interrupted r := by
  rw [interrupted, interrupted, h.method, h.loggedUri]

/-- A failure that is named alike for requests that are alike. -/
theorem throwNamed_inStep {name : HttpRequest σ → Error} {V : β → β → Prop}
    (hname : ∀ r r', r.Alike Same r' → name r' = name r) :
    InStep Same cost n V (do throw (name (← CallM.request))) (do throw (name (← CallM.request))) := by
  refine .request fun r r' hr => ?_
  rw [hname r r' hr]
  exact .throw _

theorem check_inStep {c : Prop} [Decidable c] {name : HttpRequest σ → Error} {V : β → β → Prop}
    {act act' : CallM σ β} (hname : ∀ r r', r.Alike Same r' → name r' = name r)
    (hact : InStep Same cost n V act act') :
    InStep Same cost n V (if c then (do let r ← CallM.request; throw (name r); act) else act)
      (if c then (do let r ← CallM.request; throw (name r); act') else act') := by
  refine .ite (.request fun r r' hr => ?_) hact
  rw [hname r r' hr]
  exact .thenEq (.throw _) fun _ => hact

theorem lastCheck_inStep {c : Prop} [Decidable c] {name : HttpRequest σ → Error}
    (hname : ∀ r r', r.Alike Same r' → name r' = name r) :
    InStep Same cost n Eq
      (if c then (do let r ← CallM.request; throw (name r)) else pure () : CallM σ Unit)
      (if c then (do let r ← CallM.request; throw (name r)) else pure ()) :=
  .ite (throwNamed_inStep hname) (.pure rfl)

/-- A header field is stamped in both requests or in none. -/
theorem stampHeader_inStep (name value : String) :
    InStep Same cost n Eq (stampHeader name value : CallM σ Unit) (stampHeader name value) := by
  unfold stampHeader
  refine .request fun r r' hr => ?_
  have hset := Matches.ofExcept (R := Twins Same cost n) id (hr.setHeader name value)
  exact hset.bind (fun _ _ h => .revise fun _ _ _ => h) fun _ _ h => h

/-- What is told of the capacity is all in which the stamps differ. -/
theorem stampRetryHeader_inStep (number : Nat) :
    InStep Same cost n Eq (stampRetryHeader number : CallM σ Unit) (stampRetryHeader number) := by
  unfold stampRetryHeader stampHeader
  refine .get fun run run' hruns => .request fun r r' hr => ?_
  rw [hruns.lastBackoff]
  have hset := Matches.ofExcept (R := Twins Same cost n) id
    (.inr (setRetryHeader_alike hr number run.lastBackoff run.client.pool run'.client.pool))
  exact hset.bind (fun _ _ h => .revise fun _ _ _ => h) fun _ _ h => h

/-- A binding that is settled is the one before or the one that was granted. -/
theorem signsAlike_of_settled {binding settled : BoundSigner σ} {endpoint : Uri}
    {directive : Directive σ} (h : binding.plan endpoint directive = .settled settled)
    (hb : SignsAlike Same binding.signer?) (hd : directive.Fine Same) :
    SignsAlike Same settled.signer? := by
  rcases eq_or_granted_of_settled h with rfl | ⟨parameters, rfl, rfl⟩
  · exact hb
  · exact hd

/-- Requests that are alike are signed by the same signer. -/
theorem sign_inStep {signer : Signer σ} (hsigner : signer.Indifferent Same)
    (credentials : Credentials) :
    InStep Same cost n Eq (sign signer credentials) (sign signer credentials) := by
  have hsign : ∀ offset : Int, InStep Same cost n Eq
      (do
        record (.signing signer offset (← request))
        let answer ← performOnRequest fun r => signer.sign r credentials
        let r ← request
        CallM.ofExcept (.signing r.method r.loggedUri) answer : CallM σ Unit)
      (do
        record (.signing signer offset (← request))
        let answer ← performOnRequest fun r => signer.sign r credentials
        let r ← request
        CallM.ofExcept (.signing r.method r.loggedUri) answer) := by
    intro offset
    refine .request fun r r' hr => .thenEq (.record ?_) fun _ =>
      .thenEq (.performOnRequest (hsigner credentials)) fun answer => .request fun r r' hr => ?_
    · rw [Event.masked, Event.masked, hr.masked]
    · rw [hr.method, hr.loggedUri]
      exact .ofExcept_self _ answer
  unfold sign
  refine .get fun run run' hruns => ?_
  rw [show run'.client.clockOffset = run.client.clockOffset by rw [hruns.client]]
  refine .ite (hsign _) (.thenEq (.revise fun r r' hr => ?_) fun _ => hsign _)
  exact hr.withTimeOffset run.client.clockOffset

theorem signWith_inStep {signer : Option (Signer σ)} (hsigner : SignsAlike Same signer)
    (credentials : Option Credentials) :
    InStep Same cost n Eq (signWith signer credentials) (signWith signer credentials) := by
  unfold signWith
  split
  · exact sign_inStep (hsigner _ rfl) _
  · exact .pure rfl

/-! ### Up to the answer of the transport -/

section Asking

variable (hs : s.client.Indifferent Same s.handlers s.context)

include hs

theorem readClock_inStep : InStep Same cost n Eq (readClock s) (readClock s) :=
  .thenEq (.perform hs.now) fun _ => .thenEq (.record rfl) fun _ => .pure rfl

theorem readFlag_inStep : InStep Same cost n Eq (readFlag s) (readFlag s) :=
  .thenEq (.perform hs.isCancelled) fun _ => .thenEq (.record rfl) fun _ => .pure rfl

theorem timeIsUp_inStep : InStep Same cost n Eq (timeIsUp s) (timeIsUp s) := by
  unfold timeIsUp
  split
  · exact .thenEq (readClock_inStep hs) fun _ => .pure rfl
  · exact .pure rfl

theorem checkInterruption_inStep :
    InStep Same cost n Eq (checkInterruption s) (checkInterruption s) := by
  unfold checkInterruption
  refine .thenEq (timeIsUp_inStep hs) fun _ =>
    check_inStep (fun _ _ => deadlineExceeded_alike) ?_
  exact .thenEq (readFlag_inStep hs) fun _ => lastCheck_inStep fun _ _ => interrupted_alike

theorem loadCredentials_inStep :
    InStep Same cost n Eq (loadCredentials s) (loadCredentials s) := by
  unfold loadCredentials
  refine .request fun r r' hr => ?_
  rw [hr.subject]
  split
  · exact .pure rfl
  · next source heq =>
    have hsource : Steady Same source := by
      cases hown : r.subject.credentials with
      | some own =>
        rw [hown] at heq
        exact Option.some.inj heq ▸ hr.credentials own hown
      | none =>
        rw [hown] at heq
        exact hs.credentials source heq
    exact .thenEq (.record rfl) fun _ => .thenEq (.perform hsource) fun answer =>
      .thenEq (.ofExcept_self _ answer) fun _ => .pure rfl

theorem planWait_inStep (delay : Duration) :
    InStep Same cost n Eq (planWait s delay) (planWait s delay) := by
  unfold planWait
  split
  · exact .thenEq (readClock_inStep hs) fun _ => .pure rfl
  · exact .pure rfl

theorem pauseAfter_inStep (failure : Error) (number : Nat) :
    InStep Same cost n Eq (pauseAfter s failure number) (pauseAfter s failure number) := by
  unfold pauseAfter
  refine .request fun r r' hr => ?_
  rw [hr.subject, hr.body]
  refine .thenEq (.perform (hs.backoff _)) fun delay => .thenEq (.record rfl) fun _ =>
    .thenEq (.update fun run run' hruns => { hruns with lastBackoff := rfl }) fun _ => ?_
  refine .thenEq (planWait_inStep hs delay) fun plan => .thenEq (.perform (hs.pause _)) fun _ =>
    .thenEq (.record rfl) fun _ => .thenEq (timeIsUp_inStep hs) fun _ => ?_
  exact check_inStep (fun _ _ => deadlineExceeded_alike) <|
    check_inStep (fun _ _ => interrupted_alike) <|
      lastCheck_inStep fun _ _ => deadlineExceeded_alike

theorem beginAgain_inStep (directive : Directive σ) (number : Nat) :
    InStep Same cost n Eq (beginAgain s directive number) (beginAgain s directive number) := by
  unfold beginAgain
  refine .ite (.pure rfl) (.thenEq (announce_inStep _) fun _ => ?_)
  split
  · exact pauseAfter_inStep hs _ number
  · exact .pure rfl

theorem approach_inStep (directive : Directive σ) (number : Nat) :
    InStep Same cost n Eq (approach s directive number) (approach s directive number) :=
  .thenEq (checkInterruption_inStep hs) fun _ => .thenEq (loadCredentials_inStep hs) fun _ =>
    .thenEq (beginAgain_inStep hs directive number) fun _ => .pure rfl

theorem bindSigner_inStep {directive : Directive σ} (hd : directive.Fine Same) :
    InStep Same cost n (fun signer signer' => signer' = signer ∧ SignsAlike Same signer)
      (bindSigner s directive) (bindSigner s directive) := by
  have hbind : ∀ new : BoundSigner σ, SignsAlike Same new.signer? →
      InStep Same cost n (fun signer signer' => signer' = signer ∧ SignsAlike Same signer)
        (do
          record (.signerBound new)
          modify fun run => { run with binding := new }
          return new.signer? : CallM σ (Option (Signer σ)))
        (do
          record (.signerBound new)
          modify fun run => { run with binding := new }
          return new.signer?) := by
    intro new hnew
    refine .thenEq (.record rfl) fun _ => .thenEq (.update ?_) fun _ => .pure ⟨rfl, hnew⟩
    exact fun run run' hruns => { hruns with binding := rfl, signer := hnew }
  unfold bindSigner
  refine .get fun run run' hruns => ?_
  rw [hruns.binding, hruns.request.endpoint]
  dsimp only
  split
  · next new hplan => exact hbind new (signsAlike_of_settled hplan hruns.signer hd)
  · next address hplan =>
    refine .thenEq (.record rfl) fun _ =>
      (Matches.performWith (Q := SignsAlike Same) (hs.signers address) (hs.signer address)).bind ?_
        fun _ _ h => h
    rintro _ answer ⟨rfl, hanswer⟩
    exact hbind (.bound (some address) answer) hanswer

theorem exchangeLimit_inStep : InStep Same cost n Eq (exchangeLimit s) (exchangeLimit s) := by
  unfold exchangeLimit
  split
  · exact .pure rfl
  · refine .thenEq (readClock_inStep hs) fun now => ?_
    split
    · exact .pure rfl
    · exact throwNamed_inStep fun _ _ => deadlineExceeded_alike

theorem dispatch_inStep (limit : Option Duration) :
    InStep Same cost n Eq (dispatch s limit) (dispatch s limit) := by
  unfold dispatch
  refine .request fun r r' hr => .get fun run run' hruns => .thenEq (.record ?_) fun _ =>
    .performOnRequest (hs.send limit)
  rw [Event.masked, Event.masked, hr.masked, hruns.client]

end Asking

end CallM

end ServiceCall
