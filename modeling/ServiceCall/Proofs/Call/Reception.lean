import ServiceCall.Proofs.Call.Answer
import ServiceCall.Proofs.Call.Closing

/-!
The reception of an answer. A successful response that can be read is shown to the hooks, and what
they leave of it is handed to the handler; a call has a result only if the handler has one.
-/

namespace ServiceCall

variable {σ α : Type}

/-! ### What hooks and handler are shown -/

/-- The response that can be read: a successful one, in memory unless it is left open. -/
def ResultHandler.read? (h : ResultHandler σ α) : Answer → Option HttpResponse
  | .error _ => none
  | .ok r =>
    if r.status.isSuccess then
      if h.keepsOpen then some r
      else
        match r.buffer with
        | (.ok _, r) => some r
        | (.error _, _) => none
    else none

/-- What the listener is told of a response, from its arrival to the first of the hooks. -/
def HttpResponse.milestones (r : HttpResponse) : List Milestone :=
  [.dispatchCompleted, .responseStarted] ++ (r.headers.contentLength?.map .responseLength).toList

/-- What the hooks make of a response that has been read in the run, and where they leave the
world. -/
def CallSetting.shown (s : CallSetting σ α) (run : Run σ) (read : HttpResponse) :
    HttpResponse × σ :=
  let told := (read.milestones.forM fun event => event.tellTo run.request.subject.listener)
    run.world
  Hook.beforeUnmarshalAll s.context.hooks run.request read told.2

/-- What the journal says of it up to the last of the hooks. -/
def CallSetting.receipt (s : CallSetting σ α) (status : Status) (read : HttpResponse) :
    Journal σ :=
  [.milestone .dispatchCompleted, .answered status, .milestone .responseStarted] ++
    (read.headers.contentLength?.map fun n => .milestone (.responseLength n)).toList ++
    HookPhase.beforeUnmarshal.ran s.places.reverse

/-- The response to the caller. -/
def Handled.respond (handled : Handled α) (status : Status) (left : HttpResponse) : Response α where
  value := handled.result
  status := status
  headers := left.headers
  metadata := handled.metadata <|> left.requestId?.map fun id => { requestId := some id }

/-- The answer could be read, and the handler made the response of what the hooks left of it. -/
inductive Fulfills (s : CallSetting σ α) (run : Run σ) (answer : Answer) : Response α → Prop where
  | handled {read left : HttpResponse} {handled : Handled α} {world : σ}
    (readable : s.handlers.response.read? answer = some read)
    (handles : s.handlers.response.handle (s.shown run read).1 (s.shown run read).2 =
      ((.ok handled, left), world)) :
    Fulfills s run answer (handled.respond read.status left)

/-- What becomes of a failure of the response handler that is no reason to retry. -/
def HandlerFailure.asFatal (status : Status) (reason : Option String) : HandlerFailure → Error
  | .failure e => e
  | e => .unmarshall status.code reason e.text (some e.text)

/-- The answer is one that ends an attempt for good: none at all when the time of the call is up, a
result or a failure that its handler cannot read, or a redirect that leads nowhere. -/
inductive Defeats (s : CallSetting σ α) (run : Run σ) : Answer → Error → Prop where
  | late {fault : TransportError} {e : Error} (code : e.code = .deadlineExceeded) :
    Defeats s run (.error fault) e
  | unreadResult {r read left : HttpResponse} {failure : HandlerFailure} {world : σ}
    (readable : s.handlers.response.read? (.ok r) = some read)
    (handles : s.handlers.response.handle (s.shown run read).1 (s.shown run read).2 =
      ((.error failure, left), world))
    (fatal : ∀ source, failure ≠ .io source) :
    Defeats s run (.ok r) (failure.asFatal read.status read.reason)
  | nowhere {r : HttpResponse} {location : String} (leads : CallM.location? r = some location)
    (lost : run.request.fullUri.toOption.bind (Address.resolve? · location) = none) :
    Defeats s run (.ok r) (.invalidUri location)
  | unreadFailure {r left : HttpResponse} {failure : HandlerFailure} {e : Error} {world : σ}
    (failed : r.status.isSuccess = false) (stays : CallM.location? r = none)
    (handles : s.handlers.error r
        (Milestone.dispatchCompleted.tellTo run.request.subject.listener run.world).2 =
      ((.error failure, left), world))
    (told : failure.asFailure r.status r.reason = .error e) (fatal : e.isIo = false) :
    Defeats s run (.ok r) e

theorem HttpResponse.status_of_buffer {r read : HttpResponse} {buffered : Except IoError Bytes}
    (h : r.buffer = (buffered, read)) : read.status = r.status := by
  unfold buffer at h
  split at h
  · rw [(Prod.mk.inj h).2]
  · split at h
    · rw [← (Prod.mk.inj h).2]
    · rw [← (Prod.mk.inj h).2]

theorem ResultHandler.status_of_read? {h : ResultHandler σ α} {r read : HttpResponse}
    (hread : h.read? (.ok r) = some read) : r.status.isSuccess = true ∧ read.status = r.status := by
  unfold read? at hread
  dsimp only at hread
  split at hread
  · next hsuccess =>
    refine ⟨hsuccess, ?_⟩
    split at hread
    · rw [Option.some.inj hread]
    · split at hread
      · next hbuffer => exact Option.some.inj hread ▸ HttpResponse.status_of_buffer hbuffer
      · cases hread
  · cases hread

namespace CallM

variable {s : CallSetting σ α} {authAllowed : Bool} {run : Run σ}

theorem announce_eq (event : Milestone) (run : Run σ) :
    announce event run =
      .ok () { run with
        world := (event.tellTo run.request.subject.listener run.world).2
        journal := run.journal ++ [.milestone event] } :=
  announceTo_eq run run.request.subject.listener event

/-- What is made of a response that can be read. -/
theorem onSuccess_of_read? {r read : HttpResponse}
    (hread : s.handlers.response.read? (.ok r) = some read) :
    (onSuccess s r : CallM σ (Outcome σ α authAllowed)) = (do
      announce .responseStarted
      if let some length := read.headers.contentLength? then announce (.responseLength length)
      handleResult s read.status read.reason (← beforeUnmarshal s read)) := by
  unfold ResultHandler.read? at hread
  dsimp only at hread
  split at hread
  · unfold onSuccess
    split at hread
    · next hopen =>
      obtain rfl := Option.some.inj hread
      rw [hopen]
      rfl
    · next hclosed =>
      rw [Bool.not_eq_true] at hclosed
      split at hread
      · next hbuffer =>
        obtain rfl := Option.some.inj hread
        rw [hclosed, hbuffer]
        rfl
      · cases hread
  · cases hread

/-- A response that can be read goes to the handler as the hooks have left it. -/
theorem onResponse_eq_handleResult {r read : HttpResponse}
    (hread : s.handlers.response.read? (.ok r) = some read) :
    (onResponse s r : CallM σ (Outcome σ α authAllowed)) run =
      handleResult s read.status read.reason (s.shown run read).1 { run with
        world := (s.shown run read).2
        metrics := { run.metrics with status := some r.status.code }
        journal := run.journal ++ s.receipt r.status read } := by
  obtain ⟨hsuccess, -⟩ := ResultHandler.status_of_read? hread
  unfold onResponse
  rw [bind_of_ok (announce_eq .dispatchCompleted run), bind_of_ok (rfl : record _ _ = _),
    bind_of_ok (rfl : count _ _ = _), if_pos hsuccess, onSuccess_of_read? hread,
    bind_of_ok (announce_eq .responseStarted _)]
  unfold CallSetting.shown CallSetting.receipt HttpResponse.milestones
  cases read.headers.contentLength? with
  | none =>
    refine (bind_of_ok (beforeUnmarshal_eq s _ read)).trans ?_
    simp only [List.append_assoc]
    rfl
  | some length =>
    refine (bind_of_ok (announce_eq (.responseLength length) _)).trans ?_
    refine (bind_of_ok (beforeUnmarshal_eq s _ read)).trans ?_
    simp only [List.append_assoc]
    rfl

/-- A successful response that cannot be read is a reason to retry. -/
theorem onSuccess_of_unread {r : HttpResponse} (hsuccess : r.status.isSuccess = true)
    (hread : s.handlers.response.read? (.ok r) = none) : ∃ source,
    (onSuccess s r : CallM σ (Outcome σ α authAllowed)) = pure (.retryable (.readBody source)) := by
  unfold ResultHandler.read? at hread
  dsimp only at hread
  rw [if_pos hsuccess] at hread
  unfold onSuccess
  split at hread
  · cases hread
  · next hclosed =>
    split at hread
    · cases hread
    · next source _ hbuffer =>
      refine ⟨source, ?_⟩
      simp only [hclosed, Bool.false_eq_true, if_false, hbuffer]

/-- What may happen because of a response that tells a failure. -/
def failureResponseEffects : List Effect :=
  [.metrics, .clientMetrics, .clockOffset, .request .timeOffset, .records .clockSkewed,
    .records .authAsked]

/-- Where no response is read, what does not depend on the failure still holds. -/
theorem onResponse_leaves_of_unread {watched : List Effect} {I : Run σ → Prop}
    {done : Response α → Run σ → Prop} {r : HttpResponse} (hI : DependsOn watched I)
    (hn : ∀ effect ∈ watched, effect ∉ failureResponseEffects)
    (hread : s.handlers.response.read? (.ok r) = none)
    (h : ∀ world, I { run with
      world
      metrics := { run.metrics with status := some r.status.code }
      journal := run.journal ++ [.milestone .dispatchCompleted, .answered r.status] }) :
    Ends (onResponse s r : CallM σ (Outcome σ α authAllowed)) run
      (Outcome.Leaves s done I) fun _ => I := by
  have hquiet : ∀ effects ⊆ failureResponseEffects, ∀ effect ∈ watched, effect ∉ effects :=
    fun effects hs effect hw hm => hn effect hw (hs hm)
  unfold onResponse
  rw [ends_bind, ends_ok_iff (announce_eq .dispatchCompleted run), ends_bind, ends_record,
    ends_bind, ends_count, List.append_assoc]
  split
  · next hsuccess =>
    obtain ⟨source, hpure⟩ : ∃ source, (onSuccess s r : CallM σ (Outcome σ α authAllowed)) =
        pure (.retryable (.readBody source)) := onSuccess_of_unread hsuccess hread
    rw [hpure]
    exact h _
  · split
    · exact onRedirect_ends (fun _ => h _) (fun _ _ _ => h _) fun _ => h _
    · unfold onFailureResponse
      refine ((readFailure_footprint s r).keeps hI (hquiet _ (by simp)) (h _)).bind
        fun answer _ h => ?_
      split
      · split
        · exact h
        · exact h
      · refine ((countThrottle_footprint s _).keeps hI (hquiet _ (by decide)) h).bind
          fun _ _ h => ?_
        refine ((correctClock_footprint s _ _).keeps hI (hquiet _ (by decide)) h).bind
          fun _ _ h => ?_
        exact askAuthRetry_leaves hI (fun hm => hn _ hm (by decide)) h _

/-- What a handler that has a result leads to. -/
theorem complete_ends (status : Status) (handled : Handled α) (left : HttpResponse) (run : Run σ)
    {failed : Error → Run σ → Prop} :
    Ends (complete s status handled left) run
      (fun response run' => response = handled.respond status left ∧ ∃ returned,
        run'.journal = run.journal ++ [.capacityReturned returned, .milestone .responseCompleted])
      failed := by
  unfold complete returnCapacity
  dsimp only
  refine ((remember_footprint _).ends_of_no_failure (by simp) run).bind fun _ known hf => ?_
  simp only [bind_assoc, ends_bind, ends_get, ends_record, ends_modify]
  rw [ends_ok_iff (announce_eq .responseCompleted _), ends_pure, hf.journal_eq (by simp),
    List.append_assoc]
  exact ⟨rfl, _, rfl⟩

/-- Only a handler that has a result makes an attempt succeed. -/
theorem handleResult_receives (status : Status) (reason : Option String) (r : HttpResponse)
    (run : Run σ) {I : Run σ → Prop} {done : Response α → Run σ → Prop}
    (hI : ∀ world, I { run with world, journal := run.journal ++ [.handled r] })
    (hdone : ∀ handled left world returned run',
      s.handlers.response.handle r run.world = ((.ok handled, left), world) →
      run'.journal = run.journal ++
        [.handled r, .capacityReturned returned, .milestone .responseCompleted] →
      done (handled.respond status left) run') :
    Ends (handleResult s status reason r : CallM σ (Outcome σ α authAllowed)) run
      (Outcome.Leaves s done I) fun _ => I := by
  unfold handleResult
  rw [ends_bind, ends_record, ends_bind, ends_perform]
  split
  · next handled left hanswer =>
    refine (complete_ends status handled left _).bind fun response run' h => ?_
    obtain ⟨rfl, returned, hj⟩ := h
    rw [List.append_assoc] at hj
    exact hdone handled left _ returned run' (Prod.ext hanswer rfl) hj
  · exact hI _
  · exact hI _
  · exact hI _

/-! ### What ends an attempt for good -/

theorem handleResult_defeats (status : Status) (reason : Option String) (r : HttpResponse)
    (run : Run σ) :
    Ends (handleResult s status reason r : CallM σ (Outcome σ α authAllowed)) run
      (fun _ _ => True)
      fun e _ => ∃ failure left world,
        s.handlers.response.handle r run.world = ((.error failure, left), world) ∧
        (∀ source, failure ≠ .io source) ∧ e = failure.asFatal status reason := by
  unfold handleResult
  rw [ends_bind, ends_record, ends_bind, ends_perform]
  split
  · exact (complete_ends status _ _ _).bind fun _ _ _ => trivial
  · next e left hanswer => exact ⟨.failure e, left, _, Prod.ext hanswer rfl, by simp, rfl⟩
  · trivial
  · next failure left hfailure hio hanswer =>
    refine ⟨failure, left, _, Prod.ext hanswer rfl, hio, ?_⟩
    cases failure with
    | failure e => exact (hfailure e rfl).elim
    | _ => rfl

/-- A failure that a response tells ends the attempt only if nobody can read it. -/
theorem onFailureResponse_defeats (r : HttpResponse) (run : Run σ) :
    Ends (onFailureResponse s r : CallM σ (Outcome σ α authAllowed)) run (fun _ _ => True)
      fun e _ => ∃ failure left world,
        s.handlers.error r run.world = ((.error failure, left), world) ∧
        failure.asFailure r.status r.reason = .error e ∧ e.isIo = false := by
  unfold onFailureResponse readFailure
  rw [ends_bind, ends_bind, ends_perform, ends_bind, ends_request, ends_pure]
  rcases hhandle : s.handlers.error r run.world with ⟨⟨answer, left⟩, world⟩
  have hask : ∀ (headers : Headers) (e : ServiceError) (run' : Run σ), Ends (do
      countThrottle s e
      correctClock s headers e
      askAuthRetry s e : CallM σ (Outcome σ α authAllowed)) run' (fun _ _ => True)
        fun _ _ => False := by
    intro headers e run'
    refine ((countThrottle_footprint s e).ends_of_no_failure (by simp) run').bind fun _ run' _ => ?_
    refine ((correctClock_footprint s headers e).ends_of_no_failure (by simp) run').bind
      fun _ run' _ => ?_
    refine askAuthRetry_ends trivial fun rule answer allowed _ _ _ => ?_
    rw [ends_bind, ends_record]
    cases answer.1 <;> trivial
  cases answer with
  | ok e => exact (hask _ _ _).mono_failed fun _ _ h => h.elim
  | error failure =>
    dsimp only
    cases htold : failure.asFailure r.status r.reason with
    | ok e => exact (hask _ _ _).mono_failed fun _ _ h => h.elim
    | error e =>
      dsimp only [Except.map]
      split
      · trivial
      · next hio => exact ⟨failure, left, world, rfl, htold, by simpa using hio⟩

/-- An attempt whose request was sent ends for good only because of its own answer. -/
theorem interpret_defeats (limit : Option Duration) (answer : Answer) (run : Run σ) :
    Ends (interpret s limit answer : CallM σ (Outcome σ α authAllowed)) run (fun _ _ => True)
      fun e _ => Defeats s run answer e := by
  cases answer with
  | error fault =>
    unfold interpret onNoResponse
    refine ((timeIsUp_footprint s).ends_of_no_failure (by simp) run).bind fun up _ _ => ?_
    dsimp only
    split
    · exact .late rfl
    · trivial
  | ok r =>
    cases hread : s.handlers.response.read? (.ok r) with
    | some read =>
      refine (ends_congr (onResponse_eq_handleResult hread)).mpr ?_
      refine (handleResult_defeats _ _ _ _).mono_failed ?_
      rintro e last ⟨failure, left, world, hhandle, hfatal, rfl⟩
      exact .unreadResult hread hhandle hfatal
    | none =>
      unfold interpret onResponse
      rw [ends_bind, ends_ok_iff (announce_eq .dispatchCompleted run), ends_bind, ends_record,
        ends_bind, ends_count]
      split
      · next hsuccess =>
        obtain ⟨source, hpure⟩ : ∃ source, (onSuccess s r : CallM σ (Outcome σ α authAllowed)) =
            pure (.retryable (.readBody source)) := onSuccess_of_unread hsuccess hread
        rw [hpure]
        trivial
      · next hfailed =>
        split
        · next location hlocation =>
          exact onRedirect_ends (fun _ => trivial) (fun _ _ _ => trivial)
            fun hlost => .nowhere hlocation hlost
        · next hnone =>
          refine (onFailureResponse_defeats r _).mono_failed ?_
          rintro e last ⟨failure, left, world, hhandle, htold, hfatal⟩
          exact .unreadFailure (by simpa using hfailed) hnone hhandle htold hfatal

end CallM

end ServiceCall
