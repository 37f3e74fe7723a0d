import ServiceCall.Proofs.Attempts.Redirection
import ServiceCall.Proofs.Call.Marks

/-!
The lifecycle of the hooks of a call. On the way out they run once, in the order in which they were
registered, and before anything is sent. On the way back they run in the opposite order: once for
each response that can be read, and once when the result is known.
-/

namespace ServiceCall

variable {σ α : Type}

/-- Hooks, exchanges, and the responses that go to the handler. -/
def Mark.ofHooks : Mark → Bool
  | .hook .. => true
  | .sent => true
  | .handled => true
  | .started _ => false
  | .milestone _ => false

/-- The hooks that are told a result. -/
def HookPhase.closing : Except Error (Response α) → HookPhase
  | .ok _ => .afterResponse
  | .error _ => .afterError

/-- An exchange, with what hooks and handler are shown of its answer. -/
def ResultHandler.viewing (h : ResultHandler σ α) (places : List Nat) (answer : Answer) :
    List Mark :=
  .sent :: if (h.read? answer).isSome then
    places.reverse.map (.hook .beforeUnmarshal) ++ [.handled] else []

namespace Mark

@[simp] theorem filter_hooks (phase : HookPhase) (places : List Nat) :
    (places.map (Mark.hook phase)).filter ofHooks = places.map (.hook phase) := by
  refine List.filter_eq_self.mpr fun mark hmark => ?_
  obtain ⟨place, -, rfl⟩ := List.mem_map.mp hmark
  rfl

@[simp] theorem filter_opening (length : Option Nat) : (opening length).filter ofHooks = [] := by
  cases length <;> rfl

@[simp] theorem filter_preface (number : Nat) : (preface number).filter ofHooks = [] := by
  unfold preface
  split <;> rfl

theorem filter_stub {stub : List Mark} {number : Nat} (h : stub <+: preface number) :
    stub.filter ofHooks = [] := by
  obtain ⟨rest, hrest⟩ := h
  have hwhole := filter_preface number
  rw [← hrest, List.filter_append] at hwhole
  exact (List.append_eq_nil_iff.mp hwhole).1

end Mark

namespace CallSetting

variable {s : CallSetting σ α}

theorem filter_reception (answer : Answer) (number : Nat) :
    (Mark.departure number ++ s.reception answer).filter Mark.ofHooks =
      s.handlers.response.viewing s.places answer := by
  unfold Mark.departure
  rw [List.filter_append, List.filter_append, Mark.filter_preface]
  cases answer with
  | error e => rfl
  | ok r =>
    rw [reception, ResultHandler.viewing]
    cases s.handlers.response.read? (.ok r) with
    | none => rfl
    | some read =>
      rw [reading]
      cases read.headers.contentLength? with
      | none => simp [Mark.ofHooks, List.filter]
      | some length => simp [Mark.ofHooks, List.filter]

theorem filter_legs (answers : List Answer) :
    (s.legs answers).filter Mark.ofHooks =
      answers.flatMap (s.handlers.response.viewing s.places) := by
  have hentry : ∀ entry : Answer × Nat,
      (Mark.departure entry.2 ++ s.reception entry.1).filter Mark.ofHooks =
        s.handlers.response.viewing s.places entry.1 := fun entry => filter_reception _ _
  rw [legs, List.filter_flatMap]
  simp only [hentry]
  rw [← List.flatMap_map, List.zipIdx_map_fst]

theorem filter_closing (result : Except Error (Response α)) :
    (s.closing result).filter Mark.ofHooks =
      s.places.reverse.map (.hook (.closing result)) := by
  cases result with
  | ok response => simp [closing, HookPhase.closing, Mark.ofHooks]
  | error e => simp [closing, HookPhase.closing, Mark.ofHooks]

end CallSetting

/-- What a call that has been conducted says of its hooks. -/
theorem Conducted.filter {s : CallSetting σ α} {first run : Run σ} {answers : List Answer}
    {result : Except Error (Response α)} (h : Conducted s first answers run result) :
    (s.Decorates first ∧ run.journal.marks.filter Mark.ofHooks =
      s.places.map (.hook .beforeSend) ++
        answers.flatMap (s.handlers.response.viewing s.places)) ∨
    (¬s.Decorates first ∧ answers = [] ∧ (∃ e, result = .error e) ∧
      run.journal.marks.filter Mark.ofHooks = []) := by
  have hunderway : ∀ others : List Mark, others.filter Mark.ofHooks = [] →
      Underway s first answers others run → s.Decorates first ∧
        run.journal.marks.filter Mark.ofHooks = s.places.map (.hook .beforeSend) ++
          answers.flatMap (s.handlers.response.viewing s.places) := by
    rintro others hothers ⟨hdecorated, hmarks⟩
    refine ⟨hdecorated, ?_⟩
    rw [hmarks, CallSetting.outgoing]
    simp only [List.filter_append, Mark.filter_opening, Mark.filter_hooks,
      CallSetting.filter_legs, hothers, List.nil_append, List.append_nil]
  cases h with
  | undecorated refused unanswered marks =>
    exact .inr ⟨refused, unanswered, ⟨_, rfl⟩, by rw [marks, Mark.filter_opening]⟩
  | failed stalled underway => exact .inl (hunderway _ (Mark.filter_stub stalled) underway)
  | succeeded _ _ underway => exact .inl (hunderway _ rfl underway)

/-- The hooks of a call are those of its client and then those that its context was given. Unless
the client has been shut down, they run as the word says, and each of them gets what the one before
it has left. -/
theorem hooks_of_call (c : Client σ) (handlers : Handlers σ α) (context : CallContext σ)
    (more : List (Hook σ)) (state : ClientState) (request : HttpRequest σ) (world : σ) :
    let hooks := c.hooks ++ more
    let extended := more.foldl CallContext.withHook { context with hooks := c.hooks }
    let s := c.settingAt handlers extended request world
    let first := c.runAt state request world
    let called := c.call handlers extended state request world
    let answers := c.answers handlers extended state request world
    let forward := List.range hooks.length
    extended.hooks = hooks ∧
    (state.isShutDown = true → called.1.journal = [] ∧ called.2 = world) ∧
    (state.isShutDown = false →
      (s.Decorates first → called.1.journal.marks.filter Mark.ofHooks =
        forward.map (.hook .beforeSend) ++
          answers.flatMap (handlers.response.viewing forward) ++
            forward.reverse.map (.hook (.closing called.1.result))) ∧
      (¬s.Decorates first → answers = [] ∧ (∃ e, called.1.result = .error e) ∧
        called.1.journal.marks.filter Mark.ofHooks =
          forward.reverse.map (.hook .afterError)) ∧
      (∀ decorated, CallM.decorate s first = .ok () decorated →
        let sent := Hook.beforeSendAll hooks decorated.request decorated.world
        c.StandsAfter handlers extended state request world 1 .begun { decorated with
          request := sent.1
          world := sent.2
          journal := decorated.journal ++ HookPhase.beforeSend.ran forward }) ∧
      (∀ authAllowed run r read, handlers.response.read? (.ok r) = some read →
        let told := read.milestones.forM fun event => event.tellTo run.request.subject.listener
        let shown := Hook.beforeUnmarshalAll hooks run.request read (told run.world).2
        (CallM.onResponse s r : CallM σ (Outcome σ α authAllowed)) run =
          CallM.handleResult s read.status read.reason shown.1 { run with
            world := shown.2
            metrics := { run.metrics with status := some r.status.code }
            journal := run.journal ++ s.receipt r.status read }) ∧
      ∃ n conducted,
        c.StandsAfter handlers extended state request world n (.ended called.1.result) conducted ∧
        called.2 = (s.tellCollector conducted.metrics (s.tellResult request.subject.listener
          conducted.request called.1.result conducted.world).2).2) := by
  intro hooks extended s first called answers forward
  have hhooks : extended.hooks = hooks := CallContext.hooks_foldl_withHook more
  have hplaces : s.places = forward := by
    rw [CallSetting.places, show s.context.hooks = hooks from hhooks]
  refine ⟨hhooks, fun hs => ?_, fun hs => ?_⟩
  · rw [show called = _ from if_pos hs]
    exact ⟨rfl, rfl⟩
  · obtain ⟨n, result, conducted, hended, hresult, hconducted, hmarks⟩ :=
      @Client.exists_conducted σ α c handlers extended state request world hs
    obtain rfl : result = called.1.result := hresult.symm
    have hfilter : called.1.journal.marks.filter Mark.ofHooks =
        conducted.journal.marks.filter Mark.ofHooks ++
          forward.reverse.map (.hook (.closing called.1.result)) := by
      rw [hmarks, List.filter_append, CallSetting.filter_closing, hplaces]
    refine ⟨fun hdecorates => ?_, fun hrefused => ?_, fun decorated hdecorated => ?_,
      fun authAllowed run r read hread => ?_, n, conducted, hended, ?_⟩
    · obtain ⟨-, hword⟩ | ⟨hrefused, -⟩ := hconducted.filter
      · rw [hfilter, hword, hplaces]
        rfl
      · exact absurd hdecorates hrefused
    · obtain ⟨hdecorates, -⟩ | ⟨-, hunanswered, ⟨e, he⟩, hword⟩ := hconducted.filter
      · exact absurd hdecorates hrefused
      · refine ⟨hunanswered, ⟨e, he⟩, ?_⟩
        rw [hfilter, hword, he]
        rfl
    · have hsend := CallM.beforeSend_eq s decorated
      rw [hplaces, show s.context.hooks = hooks from hhooks] at hsend
      have hlaunch := (congrFun (CallM.launch_eq_decorate s) first).trans
        ((CallM.bind_of_ok hdecorated).trans hsend)
      exact ⟨hs, CallM.phaseAfter_of_ok hlaunch⟩
    · have hhandle := @CallM.onResponse_eq_handleResult σ α s authAllowed run r read hread
      rw [CallSetting.shown, show s.context.hooks = hooks from hhooks] at hhandle
      exact hhandle
    · rw [show called = _ from hended.call_eq]
      rfl

open Rehearsal in
/-- Two hooks around a call that is sent to another address and succeeds there. -/
theorem hooks_of_call_elsewhere :
    let more : List (Hook Stage) := [{}, {}]
    let extended := more.foldl CallContext.withHook { unsigned with hooks := client.hooks }
    let world : Stage := { steps := [elsewhere, .answering .ok {}] }
    let s := client.settingAt (handlers expired) extended paid world
    let report := rehearse client expired extended (client.start 0) paid world.steps
    s.Decorates (client.runAt (client.start 0) paid world) ∧
      (client.answers (handlers expired) extended (client.start 0) paid world).flatMap
          (s.handlers.response.viewing [0, 1]) =
        [.sent, .sent, .hook .beforeUnmarshal 1, .hook .beforeUnmarshal 0, .handled] ∧
      report.journal.marks.filter Mark.ofHooks =
        [.hook .beforeSend 0, .hook .beforeSend 1, .sent, .sent, .hook .beforeUnmarshal 1,
          .hook .beforeUnmarshal 0, .handled, .hook .afterResponse 1, .hook .afterResponse 0] := by
  intro more extended world s report
  obtain ⟨-, -, hlive⟩ := hooks_of_call client (handlers expired) unsigned more (client.start 0)
    paid world
  have hdecorates : s.Decorates (client.runAt (client.start 0) paid world) := by
    decide +kernel
  have hmarks : report.journal.marks.filter Mark.ofHooks =
      [.hook .beforeSend 0, .hook .beforeSend 1, .sent, .sent, .hook .beforeUnmarshal 1,
        .hook .beforeUnmarshal 0, .handled, .hook .afterResponse 1, .hook .afterResponse 0] := by
    simp only [report, rehearse, Client.call, CallM.call, CallM.conduct, CallM.attempts_eq_turnsIn]
    decide +kernel
  refine ⟨hdecorates, ?_, hmarks⟩
  obtain ⟨hword, -⟩ := hlive rfl
  have hbetween := (hword hdecorates).symm.trans hmarks
  exact List.append_cancel_left (List.append_inj_left' hbetween rfl)

end ServiceCall
