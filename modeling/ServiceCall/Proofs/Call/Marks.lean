import ServiceCall.Proofs.Call.Reception

/-!
The marks of a call: what its journal says of attempts, milestones, hooks and exchanges. However
many attempts there are and however they end, the marks of a call form one word, which the answers
of the transport and the result of the call determine up to the attempt that was not sent any more.
-/

namespace ServiceCall

variable {σ α : Type}

/-! ### Marks -/

inductive Mark where
  | started (number : Nat)
  | milestone (event : Milestone)
  | hook (phase : HookPhase) (place : Nat)
  | sent
  | handled
  deriving DecidableEq, Repr

def Event.mark? : Event σ → Option Mark
  | .attemptStarted number _ => some (.started number)
  | .milestone event => some (.milestone event)
  | .hook phase place => some (.hook phase place)
  | .dispatched .. => some .sent
  | .handled _ => some .handled
  | _ => none

def Journal.marks (j : Journal σ) : List Mark := j.filterMap Event.mark?

@[simp] theorem Journal.marks_append (j new : Journal σ) :
    (j ++ new).marks = j.marks ++ new.marks :=
  List.filterMap_append

theorem HookPhase.marks_ran (phase : HookPhase) (places : List Nat) :
    (phase.ran places : Journal σ).marks = places.map (.hook phase) := by
  induction places with
  | nil => rfl
  | cons place places ih => exact congrArg (_ :: ·) ih

/-- The events that leave marks. -/
def markEffects : List Effect :=
  [.records .attemptStarted, .records .milestone, .records .hook, .records .dispatched,
    .records .handled]

theorem Event.mark?_eq_none {e : Event σ} (h : .records e.kind ∉ markEffects) :
    e.mark? = none := by
  cases e <;> first | rfl | exact absurd (by simp [Event.kind, markEffects]) h

theorem marks_dependsOn (word : List Mark) :
    DependsOn markEffects fun run : Run σ => run.journal.marks = word := by
  intro effects run run' hn hf h
  obtain ⟨new, hnew, hk⟩ := hf.journal
  have hquiet : Journal.marks new = [] :=
    List.filterMap_eq_nil_iff.mpr fun e he => Event.mark?_eq_none fun hm => hn _ hm (hk e he)
  rw [hnew, Journal.marks_append, hquiet, List.append_nil, h]

/-! ### The word of a call -/

namespace Mark

def opening (length : Option Nat) : List Mark :=
  .milestone .callStarted :: (length.map fun n => .milestone (.requestLength n)).toList

/-- The beginning of an attempt. Every attempt but the first is told to be a retry. -/
def preface (number : Nat) : List Mark :=
  .started number :: if number = 1 then [] else [.milestone .retryStarted]

/-- An attempt up to the exchange. -/
def departure (number : Nat) : List Mark :=
  preface number ++ [.milestone .dispatchStarted, .sent]

end Mark

namespace CallSetting

variable (s : CallSetting σ α)

def outgoing : List Mark := s.places.map (.hook .beforeSend)

/-- What becomes of a response that can be read. -/
def reading : Option HttpResponse → List Mark
  | none => []
  | some read => .milestone .responseStarted ::
    (read.headers.contentLength?.map fun n => .milestone (.responseLength n)).toList ++
      s.places.reverse.map (.hook .beforeUnmarshal) ++ [.handled]

/-- What becomes of an answer. -/
def reception : Answer → List Mark
  | .error _ => []
  | .ok r => .milestone .dispatchCompleted :: s.reading (s.handlers.response.read? (.ok r))

/-- The attempts that were sent, each of them with what followed its answer. -/
def legs (answers : List Answer) : List Mark :=
  (answers.zipIdx 1).flatMap fun (answer, number) => Mark.departure number ++ s.reception answer

def closing : Except Error (Response α) → List Mark
  | .ok _ => s.places.reverse.map (.hook .afterResponse) ++ [.milestone .callSucceeded]
  | .error _ => s.places.reverse.map (.hook .afterError) ++ [.milestone .callFailed]

variable {s}

@[simp] theorem legs_nil : s.legs [] = [] := rfl

theorem legs_concat (answers : List Answer) (answer : Answer) :
    s.legs (answers ++ [answer]) =
      s.legs answers ++ (Mark.departure (answers.length + 1) ++ s.reception answer) := by
  simp [legs, List.zipIdx_append, Nat.add_comm]

theorem marks_closingEvents (result : Except Error (Response α)) :
    (s.closingEvents result).marks = s.closing result := by
  cases result with
  | ok response =>
    rw [closingEvents, Journal.marks_append, HookPhase.marks_ran]
    rfl
  | error e =>
    rw [closingEvents, Journal.marks_append, HookPhase.marks_ran]
    rfl

theorem marks_receipt {r read : HttpResponse}
    (hread : s.handlers.response.read? (.ok r) = some read) :
    (s.receipt r.status read).marks ++ [.handled] = s.reception (.ok r) := by
  rw [receipt, reception, hread, reading, Journal.marks_append, HookPhase.marks_ran]
  cases read.headers.contentLength? with
  | none => rfl
  | some length => rfl

end CallSetting

/-! ### What the parts of a call add to it -/

/-- An attempt went no further than to the end of its preface. -/
def Stalled (base : List Mark) (number : Nat) (run : Run σ) : Prop :=
  ∃ stub, stub <+: Mark.preface number ∧ run.journal.marks = base ++ stub

namespace CallM

variable {s : CallSetting σ α} {run : Run σ} {base stub : List Mark} {number : Nat}

theorem Footprint.stalls {β : Type} {effects : List Effect} {act : CallM σ β}
    (hact : Footprint effects act) (hn : ∀ effect ∈ markEffects, effect ∉ effects)
    (hstub : stub <+: Mark.preface number) (h : run.journal.marks = base ++ stub) :
    Ends act run (fun _ run' => run'.journal.marks = base ++ stub)
      fun _ run' => Stalled base number run' :=
  (hact.keeps (marks_dependsOn _) hn h).mono_failed fun _ _ h => ⟨stub, hstub, h⟩

theorem beginAgain_marks {directive : Directive σ} (hstart : directive.isStart = true ↔ number = 1)
    (h : run.journal.marks = base ++ [.started number]) :
    Ends (beginAgain s directive number) run
      (fun _ run' => run'.journal.marks = base ++ Mark.preface number)
      fun _ run' => Stalled base number run' := by
  unfold beginAgain
  by_cases hnumber : number = 1
  · rw [if_pos (hstart.mpr hnumber)]
    simpa [Mark.preface, hnumber] using h
  · have hpreface : Mark.preface number = [.started number, .milestone .retryStarted] := by
      simp [Mark.preface, hnumber]
    rw [if_neg (fun h => hnumber (hstart.mp h)), ends_bind,
      ends_ok_iff (announce_eq .retryStarted run)]
    have hmarks : (run.journal ++ [Event.milestone .retryStarted]).marks =
        base ++ Mark.preface number := by
      rw [Journal.marks_append, h, List.append_assoc, hpreface]
      rfl
    split
    · exact (pauseAfter_footprint s _ number).stalls (by decide) (List.prefix_refl _) hmarks
    · exact hmarks

theorem sendOut_marks {directive : Directive σ} (hstart : directive.isStart = true ↔ number = 1)
    (h : run.journal.marks = base ++ [.started number]) :
    Ends (sendOut s directive number) run
      (fun _ run' => run'.journal.marks = base ++ Mark.departure number)
      fun _ run' => Stalled base number run' := by
  have hshort : [.started number] <+: Mark.preface number :=
    List.cons_prefix_cons.mpr ⟨rfl, List.nil_prefix⟩
  have hwhole : Mark.preface number <+: Mark.preface number := List.prefix_refl _
  unfold sendOut approach
  simp only [bind_assoc, pure_bind]
  refine ((checkInterruption_footprint s).stalls (by decide) hshort h).bind fun _ _ h => ?_
  refine ((loadCredentials_footprint s).stalls (by decide) hshort h).bind fun credentials _ h => ?_
  refine (beginAgain_marks hstart h).bind fun _ _ h => ?_
  refine ((stampRetryHeader_footprint number).stalls (by decide) hwhole h).bind fun _ _ h => ?_
  refine ((bindSigner_footprint s directive).stalls (by decide) hwhole h).bind fun signer _ h => ?_
  refine ((signWith_footprint signer credentials).stalls (by decide) hwhole h).bind
    fun _ _ h => ?_
  refine ((exchangeLimit_footprint s).stalls (by decide) hwhole h).bind fun limit ready h => ?_
  rw [ends_bind, ends_ok_iff (announce_eq .dispatchStarted ready), ends_bind]
  refine (dispatch_ends s limit _).mono_ok fun answer run' hsent => ?_
  obtain ⟨-, hj, -⟩ := hsent
  rw [ends_pure, hj, Journal.marks_append, Journal.marks_append, h, List.append_assoc,
    List.append_assoc]
  rfl

theorem depart_marks {o : Origin} {tally : Tally} {directive : Directive σ}
    (hstart : directive.isStart = true ↔ tally.attempts = 0) (h : run.journal.marks = base) :
    Ends (depart s o tally directive) run
      (fun _ run' => run'.journal.marks = base ++ Mark.departure (tally.attempts + 1))
      fun _ run' => Stalled base (tally.attempts + 1) run' := by
  have hnone : ([] : List Mark) <+: Mark.preface (tally.attempts + 1) := List.nil_prefix
  have hshort : [.started (tally.attempts + 1)] <+: Mark.preface (tally.attempts + 1) :=
    List.cons_prefix_cons.mpr ⟨rfl, List.nil_prefix⟩
  unfold depart
  refine ((checkInterruption_footprint s).stalls (by decide) hnone
    (h.trans (List.append_nil _).symm)).bind fun _ ready h => ?_
  refine (startAttempt_ends s directive _ ready).bind fun _ started hf => ?_
  have hmarks : started.journal.marks = base ++ [.started (tally.attempts + 1)] := by
    rw [hf.journal_eq (by simp), Journal.marks_append, h, List.append_nil]
    rfl
  refine ((prepare_footprint o directive).stalls (by decide) hshort hmarks).bind fun _ _ h => ?_
  refine ends_onFailure.mpr ((sendOut_marks (hstart.trans ?_) h).mono_failed fun e run' h => ?_)
  · omega
  · exact h

/-- What an answer adds depends on whether it can be read, and a result adds one more mark. -/
theorem interpret_marks {authAllowed : Bool} (limit : Option Duration) (answer : Answer)
    (h : run.journal.marks = base) :
    Ends (interpret s limit answer) run
      (Outcome.Leaves s (fun response run' => Fulfills s run answer response ∧
          run'.journal.marks = base ++ s.reception answer ++ [.milestone .responseCompleted])
        (fun run' => run'.journal.marks = base ++ s.reception answer) :
        Outcome σ α authAllowed → Run σ → Prop)
      fun _ run' => run'.journal.marks = base ++ s.reception answer := by
  cases answer with
  | error e =>
    have hsame : run.journal.marks = base ++ s.reception (.error e) :=
      h.trans (List.append_nil _).symm
    unfold interpret onNoResponse
    refine ((timeIsUp_footprint s).keeps (marks_dependsOn _) (by decide) hsame).bind
      fun up _ h => ?_
    dsimp only
    split
    · exact h
    · exact h
  | ok r =>
    cases hread : s.handlers.response.read? (.ok r) with
    | none =>
      refine onResponse_leaves_of_unread (marks_dependsOn _) (by decide) hread fun world => ?_
      rw [Journal.marks_append, h, CallSetting.reception, hread]
      rfl
    | some read =>
      have hmarks : ∀ new : Journal σ,
          (run.journal ++ s.receipt r.status read ++ .handled (s.shown run read).1 :: new).marks =
            base ++ s.reception (.ok r) ++ new.marks := by
        intro new
        rw [← CallSetting.marks_receipt hread, List.append_cons, Journal.marks_append,
          Journal.marks_append, Journal.marks_append, h]
        simp only [List.append_assoc]
        rfl
      refine (ends_congr (onResponse_eq_handleResult hread)).mpr ?_
      refine handleResult_receives _ _ _ _ (fun world => ?_)
        fun handled left world returned run' hhandle hj => ⟨.handled hread hhandle, ?_⟩
      · exact (hmarks []).trans (List.append_nil _)
      · rw [hj]
        exact hmarks _

/-! ### What every step adds -/

/-- The beginning of a call, up to the hooks. -/
def decorate (s : CallSetting σ α) : CallM σ Unit := do
  begin s (← request).subject.listener
  enrich s

theorem launch_eq_decorate (s : CallSetting σ α) :
    launch s = decorate s >>= fun _ => beforeSend s := by
  simp only [launch, setOut, decorate, bind_assoc]

theorem decorate_marks (h : run.journal = []) :
    Ends (decorate s) run
      (fun _ run' => run'.journal.marks = Mark.opening run.request.body.length?)
      fun _ run' => run'.journal.marks = Mark.opening run.request.body.length? := by
  have henrich : ∀ run' : Run σ, run'.journal.marks = Mark.opening run.request.body.length? →
      Ends (enrich s) run'
        (fun _ run' => run'.journal.marks = Mark.opening run.request.body.length?)
        fun _ run' => run'.journal.marks = Mark.opening run.request.body.length? :=
    fun run' h => (enrich_footprint s).keeps (marks_dependsOn _) (by decide) h
  unfold decorate begin
  rw [ends_bind, ends_request]
  simp only [bind_assoc]
  rw [ends_bind, ends_ok_iff (countForClient_eq s run _), ends_bind,
    ends_ok_iff (announceTo_eq _ _ .callStarted), ends_bind, ends_request]
  dsimp only
  split
  · next length hlength =>
    rw [ends_bind, ends_ok_iff (announceTo_eq _ _ (.requestLength length))]
    apply henrich
    dsimp only at hlength ⊢
    rw [h, hlength]
    rfl
  · next hnone =>
    apply henrich
    dsimp only at hnone ⊢
    rw [h, Option.eq_none_iff_forall_ne_some.mpr hnone]
    rfl

/-- Only a success is the last word on a call, and every reason to go on counts as an attempt. -/
theorem conclude_leads (o : Origin) (tally : Tally)
    (outcome : Outcome σ α (decide (tally.authRetries < s.limits.authRetries))) (run : Run σ) :
    Ends (conclude s o tally outcome) run
      (fun t _ => match t with
        | .finished response => outcome = .success response
        | .again tally' _ _ => tally'.attempts = tally.attempts + 1) fun _ _ => True := by
  unfold conclude
  cases outcome with
  | success response => exact rfl
  | redirect target =>
    dsimp only
    split
    · exact .after fun _ _ => rfl
    · trivial
  | authRetry parameters allowed => exact rfl
  | retryable failure =>
    refine .after fun _ _ => ?_
    split
    · refine .after fun admitted _ => ?_
      split
      · exact .after fun _ _ => rfl
      · trivial
    · trivial

end CallM

/-! ### The word of a whole call -/

/-- The request takes what is entered before the hooks are asked. -/
def CallSetting.Decorates (s : CallSetting σ α) (first : Run σ) : Prop :=
  ∃ decorated, CallM.decorate s first = .ok () decorated

instance (s : CallSetting σ α) (first : Run σ) : Decidable (s.Decorates first) :=
  match h : CallM.decorate s first with
  | .ok () decorated => isTrue ⟨decorated, h⟩
  | .error _ _ => isFalse fun ⟨_, hok⟩ => by
    rw [h] at hok
    cases hok

/-- The marks of a call that has been sent out: so many answers have been taken up, and then come
the others. -/
structure Underway (s : CallSetting σ α) (first : Run σ) (answers : List Answer)
    (others : List Mark) (run : Run σ) : Prop where
  decorated : s.Decorates first
  marks : run.journal.marks =
    Mark.opening first.request.body.length? ++ s.outgoing ++ s.legs answers ++ others

/-- The marks of a call that has been conducted to its result. -/
inductive Conducted (s : CallSetting σ α) (first : Run σ) (answers : List Answer) (run : Run σ) :
    Except Error (Response α) → Prop where
  | undecorated {e : Error} (refused : ¬s.Decorates first) (unanswered : answers = [])
    (marks : run.journal.marks = Mark.opening first.request.body.length?) :
    Conducted s first answers run (.error e)
  | failed {e : Error} {stub : List Mark} (stalled : stub <+: Mark.preface (answers.length + 1))
    (underway : Underway s first answers stub run) : Conducted s first answers run (.error e)
  | succeeded {response : Response α} {answer : Answer}
    (last : answers.getLast? = some answer)
    (readable : (s.handlers.response.read? answer).isSome = true)
    (underway : Underway s first answers [.milestone .responseCompleted] run) :
    Conducted s first answers run (.ok response)

/-- The marks of a call in each of its phases. -/
def Phase.Marked (s : CallSetting σ α) (first : Run σ) (answers : List Answer) :
    Phase σ α → Run σ → Prop
  | .outset, run => answers = [] ∧ run = first
  | .begun, run => answers = [] ∧ Underway s first [] [] run
  | .ready _ tally directive, run => tally.attempts = answers.length ∧
      (directive.isStart = true ↔ tally.attempts = 0) ∧ Underway s first answers [] run
  | .waiting _ tally _ _, run => tally.attempts = answers.length ∧
      Underway s first answers (Mark.departure (answers.length + 1)) run
  | .failing _, run =>
      ∃ stub, stub <+: Mark.preface (answers.length + 1) ∧ Underway s first answers stub run
  | .ended result, run => Conducted s first answers run result

theorem Directive.Follows.isStart {s : CallSetting σ α} {directive : Directive σ}
    (h : directive.Follows s) : directive.isStart = false := by
  cases directive <;> first | rfl | exact absurd h id

namespace CallM

variable {s : CallSetting σ α} {first : Run σ}

/-- Each step adds its part of the word. -/
theorem marked_historyInvariant (hj : first.journal = []) :
    HistoryInvariant s (fun answers phase => phase.Marked s first answers) where
  launch := by
    rintro answers run ⟨rfl, rfl⟩
    rw [launch_eq_decorate]
    have hmarks := decorate_marks (s := s) hj
    rcases hdecorate : decorate s run with ⟨_, decorated⟩ | ⟨e, refused⟩
    · rw [ends_ok_iff hdecorate] at hmarks
      rw [ends_bind, ends_ok_iff hdecorate, ends_ok_iff (beforeSend_eq s decorated)]
      refine ⟨rfl, ⟨decorated, hdecorate⟩, ?_⟩
      rw [Journal.marks_append, hmarks, HookPhase.marks_ran]
      simp [CallSetting.outgoing]
    · rw [ends_error_iff hdecorate] at hmarks
      rw [ends_bind, ends_error_iff hdecorate]
      refine .undecorated ?_ rfl hmarks
      rintro ⟨decorated, hok⟩
      rw [hdecorate] at hok
      cases hok
  markOrigin := by
    rintro answers run ⟨rfl, hdecorated, hmarks⟩
    refine (markOrigin_footprint.keeps (marks_dependsOn _) (by decide) hmarks).mono ?_ ?_
    · exact fun o run' h => ⟨rfl, by simp [Directive.isStart], hdecorated, h⟩
    · exact fun e run' h => ⟨[], List.nil_prefix, hdecorated, h⟩
  depart := by
    rintro answers o tally directive run ⟨hattempts, hstart, hdecorated, hmarks⟩
    rw [List.append_nil] at hmarks
    have h := depart_marks (s := s) (o := o) hstart hmarks
    rw [hattempts] at h
    exact h.mono (fun sent run' h => ⟨hattempts, hdecorated, h⟩)
      fun e run' ⟨stub, hstub, h⟩ => ⟨stub, hstub, hdecorated, h⟩
  arrive := by
    rintro answers o tally limit answer run ⟨hattempts, hdecorated, hmarks⟩
    have hunderway : ∀ (others : List Mark) (run' : Run σ),
        run'.journal.marks = Mark.opening first.request.body.length? ++ s.outgoing ++
          s.legs answers ++ Mark.departure (answers.length + 1) ++ s.reception answer ++ others →
        Underway s first (answers ++ [answer]) others run' := by
      intro others run' h
      refine ⟨hdecorated, ?_⟩
      simp only [h, CallSetting.legs_concat, List.append_assoc]
    have hstopped : ∀ (e : Error) (run' : Run σ), run'.journal.marks =
        Mark.opening first.request.body.length? ++ s.outgoing ++ s.legs answers ++
          Mark.departure (answers.length + 1) ++ s.reception answer →
        (Phase.failing e : Phase σ α).Marked s first (answers ++ [answer]) run' := fun e run' h =>
      ⟨[], List.nil_prefix, hunderway [] run' (h.trans (List.append_nil _).symm)⟩
    unfold arrive
    refine Ends.bind (ends_onFailure.mpr ((interpret_marks limit answer hmarks).mono_failed
      fun e run' h => hstopped e _ h)) fun outcome judged h => ?_
    have hleads := conclude_leads o tally outcome judged
    refine (((conclude_ends (marks_dependsOn _) (by decide) (fun failure number run h =>
      (admits_footprint s o failure number).keeps (marks_dependsOn _) (by decide) h) h).and
        hleads).mono ?_ fun e run' h => hstopped e run' h.1)
    rintro t run' ⟨hleft, hnumber⟩
    cases t with
    | finished response =>
      obtain ⟨hfulfills, hmarks⟩ := hleft
      cases hfulfills with
      | handled hread hhandle =>
        exact .succeeded List.getLast?_concat (by rw [hread]; rfl) (hunderway _ run' hmarks)
    | again tally' directive less =>
      obtain ⟨hfollows, hmarks⟩ := hleft
      refine ⟨by simp [hnumber, hattempts], ?_, hunderway [] run' (by simpa using hmarks)⟩
      simp [hfollows.isStart, hnumber]
  giveUp := by
    rintro answers e run ⟨stub, hstub, hdecorated, hmarks⟩
    exact .failed hstub ⟨hdecorated,
      marks_dependsOn _ _ _ _ (by decide) (giveUp_frame s run) hmarks⟩

end CallM

namespace Client

variable {c : Client σ} {handlers : Handlers σ α} {context : CallContext σ} {state : ClientState}
  {request : HttpRequest σ} {world : σ}

theorem StandsAfter.marked {n : Nat} {phase : Phase σ α} {run : Run σ}
    (h : c.StandsAfter handlers context state request world n phase run) :
    phase.Marked (c.settingAt handlers context request world) (c.runAt state request world)
      (c.answersAfter handlers context state request world n) run :=
  h.history (CallM.marked_historyInvariant rfl) ⟨rfl, rfl⟩

/-- The marks of every call that is not refused. -/
theorem exists_conducted (hs : state.isShutDown = false) :
    ∃ n result conducted,
      c.StandsAfter handlers context state request world n (.ended result) conducted ∧
      (c.call handlers context state request world).1.result = result ∧
      Conducted (c.settingAt handlers context request world) (c.runAt state request world)
        (c.answers handlers context state request world) conducted result ∧
      (c.call handlers context state request world).1.journal.marks = conducted.journal.marks ++
        (c.settingAt handlers context request world).closing result := by
  obtain ⟨n, -, result, conducted, last, hended, -, -⟩ :=
    @exists_standsAfter_ended σ α c handlers context state request world hs
  have hmarked := hended.marked
  rw [hended.answersAfter_eq] at hmarked
  refine ⟨n, result, conducted, hended, ?_, hmarked, ?_⟩
  · rw [hended.call_eq]
  · rw [hended.call_eq]
    dsimp only [CallM.closed]
    rw [Journal.marks_append, CallSetting.marks_closingEvents]

end Client

end ServiceCall
