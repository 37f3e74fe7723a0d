import ServiceCall.Proofs.Attempts.Bounds
import ServiceCall.Proofs.Call.Marks

/-!
The grammar of milestones. What a listener is told of a call is a beginning, one block for each
attempt, and an end; a block is as much of the whole word of an attempt as the attempt came to.
-/

namespace ServiceCall

variable {σ α : Type}

/-! ### Words -/

namespace Milestone

/-- Every attempt but the first is told to be a retry. -/
def retry (number : Nat) : List Milestone := if number = 1 then [] else [.retryStarted]

/-- All there is to tell of an attempt. -/
def ofAttempt (number : Nat) (length : Option Nat) : List Milestone :=
  retry number ++ [.dispatchStarted, .dispatchCompleted, .responseStarted] ++
    (length.map .responseLength).toList ++ [.responseCompleted]

def outcome : Except Error (Response α) → Milestone
  | .ok _ => .callSucceeded
  | .error _ => .callFailed

theorem not_mem_retry {event : Milestone} (number : Nat) (h : event ≠ .retryStarted) :
    event ∉ retry number := by
  unfold retry
  split
  · exact List.not_mem_nil
  · exact fun hm => h (List.mem_singleton.mp hm)

theorem nodup_ofAttempt (number : Nat) (length : Option Nat) : (ofAttempt number length).Nodup := by
  unfold ofAttempt retry
  split
  · cases length <;> simp
  · cases length <;> simp

end Milestone

namespace Mark

def milestone? : Mark → Option Milestone
  | .milestone event => some event
  | .started _ => none
  | .hook .. => none
  | .sent => none
  | .handled => none

def isStarted : Mark → Bool
  | .started _ => true
  | .milestone _ => false
  | .hook .. => false
  | .sent => false
  | .handled => false

@[simp] theorem filterMap_hooks (phase : HookPhase) (places : List Nat) :
    (places.map (Mark.hook phase)).filterMap milestone? = [] := by
  refine List.filterMap_eq_nil_iff.mpr fun mark hmark => ?_
  obtain ⟨place, -, rfl⟩ := List.mem_map.mp hmark
  rfl

theorem filterMap_preface (number : Nat) :
    (preface number).filterMap milestone? = Milestone.retry number := by
  unfold preface Milestone.retry
  split <;> rfl

end Mark

/-! ### Marks and counts -/

namespace Journal

theorem filterMap_marks (j : Journal σ) : j.marks.filterMap Mark.milestone? = j.milestones := by
  rw [marks, milestones, List.filterMap_filterMap]
  congr 1
  funext e
  cases e <;> rfl

theorem count_marks (j : Journal σ) : j.marks.count .sent = j.dispatches.length := by
  rw [marks, dispatches, List.count, List.countP_filterMap, List.length_filterMap_eq_countP]
  congr 1
  funext e
  cases e <;> rfl

theorem countP_marks (j : Journal σ) : j.marks.countP Mark.isStarted = j.started := by
  rw [marks, started, List.countP_filterMap]
  congr 1
  funext e
  cases e <;> rfl

end Journal

/-! ### Blocks -/

/-- What is told of the attempt with the number, which was given this answer if it was sent. -/
structure Milestone.Block (number : Nat) (answer? : Option Answer) (completed : Prop)
    (block : List Milestone) : Prop where
  cut : ∃ length, block <+: ofAttempt number length
  sent : .dispatchStarted ∈ block ↔ answer?.isSome = true
  answered : .dispatchCompleted ∈ block ↔ ∃ r, answer? = some (.ok r)
  successful : .responseStarted ∈ block → ∃ r, answer? = some (.ok r) ∧ r.status.isSuccess = true
  completed : .responseCompleted ∈ block ↔ completed

theorem Milestone.Block.congr {number : Nat} {answer? : Option Answer} {completed completed' : Prop}
    {block : List Milestone} (h : Block number answer? completed block)
    (hiff : completed ↔ completed') : Block number answer? completed' block :=
  { h with completed := h.completed.trans hiff }

/-- Nothing is told twice. -/
theorem Milestone.Block.nodup {number : Nat} {answer? : Option Answer} {completed : Prop}
    {block : List Milestone} (h : Block number answer? completed block) : block.Nodup := by
  obtain ⟨length, hcut⟩ := h.cut
  exact (nodup_ofAttempt number length).sublist hcut.sublist

/-- An attempt that was not sent is told at most to be a retry. -/
theorem Milestone.block_of_stub {number : Nat} {stub : List Mark}
    (h : stub <+: Mark.preface number) :
    Block number none False (stub.filterMap Mark.milestone?) := by
  have hretry : stub.filterMap Mark.milestone? <+: retry number := by
    rw [← Mark.filterMap_preface]
    exact h.filterMap _
  have hnone : ∀ {event : Milestone}, event ≠ .retryStarted →
      event ∉ stub.filterMap Mark.milestone? := fun hne he =>
    not_mem_retry number hne (hretry.subset he)
  constructor
  · refine ⟨none, hretry.trans ?_⟩
    simp only [ofAttempt, List.append_assoc]
    exact List.prefix_append _ _
  · exact iff_of_false (hnone (by decide)) (by simp)
  · exact iff_of_false (hnone (by decide)) (by simp)
  · exact fun he => absurd he (hnone (by decide))
  · exact iff_of_false (hnone (by decide)) id

namespace CallSetting

variable (s : CallSetting σ α)

/-- What is told of an attempt that was sent, until there is a result. -/
def told (answer : Answer) (number : Nat) : List Milestone :=
  (Mark.departure number ++ s.reception answer).filterMap Mark.milestone?

variable {s}

theorem told_eq (answer : Answer) (number : Nat) :
    s.told answer number = Milestone.retry number ++ .dispatchStarted ::
      (s.reception answer).filterMap Mark.milestone? := by
  rw [told, Mark.departure, List.filterMap_append, List.filterMap_append, Mark.filterMap_preface,
    List.append_assoc]
  rfl

theorem filterMap_reception_of_read? {r read : HttpResponse}
    (hread : s.handlers.response.read? (.ok r) = some read) :
    (s.reception (.ok r)).filterMap Mark.milestone? = .dispatchCompleted :: .responseStarted ::
      (read.headers.contentLength?.map .responseLength).toList := by
  rw [reception, hread, reading]
  cases read.headers.contentLength? with
  | none => simp [Mark.milestone?, List.filterMap_cons]
  | some length => simp [Mark.milestone?, List.filterMap_cons]

theorem block_of_answer (answer : Answer) (number : Nat) :
    Milestone.Block number (some answer) False (s.told answer number) := by
  rw [told_eq]
  cases answer with
  | error e =>
    constructor
    · refine ⟨none, ?_⟩
      simp [Milestone.ofAttempt, reception]
    all_goals simp [Milestone.not_mem_retry, reception]
  | ok r =>
    cases hread : s.handlers.response.read? (.ok r) with
    | none =>
      constructor
      · refine ⟨none, ?_⟩
        simp [Milestone.ofAttempt, reception, hread, reading, Mark.milestone?]
      all_goals simp [Milestone.not_mem_retry, reception, hread, reading, Mark.milestone?]
    | some read =>
      obtain ⟨hsuccess, -⟩ := ResultHandler.status_of_read? hread
      rw [filterMap_reception_of_read? hread]
      constructor
      · refine ⟨read.headers.contentLength?, ?_⟩
        simp [Milestone.ofAttempt]
      all_goals simp [Milestone.not_mem_retry, hsuccess]

theorem block_of_result {answer : Answer}
    (hread : (s.handlers.response.read? answer).isSome = true) (number : Nat) :
    Milestone.Block number (some answer) True
      (s.told answer number ++ [.responseCompleted]) := by
  obtain ⟨read, hread⟩ := Option.isSome_iff_exists.mp hread
  cases answer with
  | error e => cases hread
  | ok r =>
    obtain ⟨hsuccess, -⟩ := ResultHandler.status_of_read? hread
    rw [told_eq, filterMap_reception_of_read? hread]
    constructor
    · refine ⟨read.headers.contentLength?, ?_⟩
      simp [Milestone.ofAttempt]
    all_goals simp [Milestone.not_mem_retry, hsuccess]

/-! ### The blocks of a call -/

/-- What is told of the attempts that were sent. -/
def blocks (s : CallSetting σ α) (answers : List Answer) : List (List Milestone) :=
  (answers.zipIdx 1).map fun (answer, number) => s.told answer number

@[simp] theorem length_blocks (answers : List Answer) :
    (s.blocks answers).length = answers.length := by
  simp [blocks]

theorem getElem?_blocks (answers : List Answer) (i : Nat) :
    (s.blocks answers)[i]? = answers[i]?.map fun answer => s.told answer (i + 1) := by
  rw [blocks, List.getElem?_map, List.getElem?_zipIdx, Option.map_map, Nat.add_comm]
  rfl

theorem blocks_concat (answers : List Answer) (answer : Answer) :
    s.blocks (answers ++ [answer]) = s.blocks answers ++ [s.told answer (answers.length + 1)] := by
  simp [blocks, List.zipIdx_append, Nat.add_comm]

theorem filterMap_legs (answers : List Answer) :
    (s.legs answers).filterMap Mark.milestone? = (s.blocks answers).flatten := by
  rw [legs, blocks, List.filterMap_flatMap, ← List.flatMap_def]
  rfl

/-- What happens once in every attempt that was sent happens as often as there are answers. -/
theorem countP_legs {p : Mark → Bool}
    (h : ∀ answer number, (Mark.departure number ++ s.reception answer).countP p = 1)
    (answers : List Answer) : (s.legs answers).countP p = answers.length := by
  rw [legs, List.countP_flatMap]
  simp [Function.comp_def, h]

theorem countP_reception {p : Mark → Bool} (hmilestone : ∀ event, p (.milestone event) = false)
    (hhook : ∀ phase place, p (.hook phase place) = false) (hhandled : p .handled = false)
    (answer : Answer) : (s.reception answer).countP p = 0 := by
  cases answer with
  | error e => rfl
  | ok r =>
    rw [reception]
    cases s.handlers.response.read? (.ok r) with
    | none => simp [reading, hmilestone]
    | some read =>
      cases hlength : read.headers.contentLength? with
      | none => simp [reading, hlength, List.countP_eq_zero, hmilestone, hhook, hhandled]
      | some length => simp [reading, hlength, List.countP_eq_zero, hmilestone, hhook, hhandled]

theorem started_legs (answers : List Answer) :
    (s.legs answers).countP Mark.isStarted = answers.length := by
  refine countP_legs (fun answer number => ?_) answers
  rw [List.countP_append, countP_reception (fun _ => rfl) (fun _ _ => rfl) rfl, Mark.departure,
    Mark.preface]
  split <;> rfl

theorem sent_legs (answers : List Answer) : (s.legs answers).count .sent = answers.length := by
  refine countP_legs (fun answer number => ?_) answers
  rw [List.countP_append, countP_reception (fun _ => rfl) (fun _ _ => rfl) rfl, Mark.departure,
    Mark.preface]
  split <;> rfl

end CallSetting

/-- What is known of a call that has been sent out, in numbers and in blocks. -/
theorem Underway.counts {s : CallSetting σ α} {first run : Run σ} {answers : List Answer}
    {others : List Mark} (h : Underway s first answers others run) :
    run.journal.milestones = .callStarted ::
        (first.request.body.length?.map Milestone.requestLength).toList ++
          (s.blocks answers).flatten ++ others.filterMap Mark.milestone? ∧
      run.journal.started = answers.length + others.countP Mark.isStarted ∧
      run.journal.dispatches.length = answers.length + others.count .sent := by
  have hopening : ∀ length : Option Nat, (Mark.opening length).filterMap Mark.milestone? =
      .callStarted :: (length.map Milestone.requestLength).toList ∧
      (Mark.opening length).countP Mark.isStarted = 0 ∧ (Mark.opening length).count .sent = 0 := by
    intro length
    cases length <;> exact ⟨rfl, rfl, rfl⟩
  have houtgoing : s.outgoing.countP Mark.isStarted = 0 ∧ s.outgoing.count .sent = 0 := by
    unfold CallSetting.outgoing List.count
    simp [List.countP_eq_zero, Mark.isStarted]
  obtain ⟨hmilestones, hstarted, hsent⟩ := hopening first.request.body.length?
  rw [← Journal.filterMap_marks, ← Journal.countP_marks, ← Journal.count_marks, h.marks]
  refine ⟨?_, ?_, ?_⟩
  · simp only [List.filterMap_append, hmilestones, CallSetting.filterMap_legs,
      CallSetting.outgoing, Mark.filterMap_hooks, List.append_nil]
  · simp only [List.countP_append, hstarted, houtgoing.1, CallSetting.started_legs, Nat.zero_add]
  · simp only [List.count_append, hsent, houtgoing.2, CallSetting.sent_legs, Nat.zero_add]

/-- An attempt that was not sent was started, or not even that. -/
theorem Mark.stub_counts {stub : List Mark} {number : Nat} (h : stub <+: preface number) :
    stub.count .sent = 0 ∧ (stub = [] ∨ stub.countP isStarted = 1) := by
  cases stub with
  | nil => exact ⟨rfl, .inl rfl⟩
  | cons mark rest =>
    obtain ⟨rfl, hrest⟩ := List.cons_prefix_cons.mp h
    have hzero : ∀ p : Mark → Bool, p (.milestone .retryStarted) = false → rest.countP p = 0 := by
      intro p hp
      refine Nat.le_zero.mp (Nat.le_trans hrest.sublist.countP_le (Nat.le_of_eq ?_))
      split
      · rfl
      · simp [hp]
    refine ⟨?_, .inr ?_⟩
    · rw [List.count_cons_of_ne (by simp)]
      exact hzero _ rfl
    · rw [List.countP_cons_of_pos rfl, hzero isStarted rfl]

/-- Each of the blocks is what is to be told of its attempt. -/
def Milestone.Blocks (answers : List Answer) (completed : Nat → Prop)
    (blocks : List (List Milestone)) : Prop :=
  ∀ i block, blocks[i]? = some block → Block (i + 1) answers[i]? (completed i) block

theorem CallSetting.blocks_told {s : CallSetting σ α} {answers all : List Answer}
    {completed : Nat → Prop} (hall : answers <+: all) (h : ∀ i < answers.length, ¬completed i) :
    Milestone.Blocks all completed (s.blocks answers) := by
  intro i block hblock
  rw [getElem?_blocks] at hblock
  obtain ⟨answer, hanswer, rfl⟩ := Option.map_eq_some_iff.mp hblock
  have hlength : i < answers.length := (List.getElem?_eq_some_iff.mp hanswer).1
  obtain ⟨more, rfl⟩ := hall
  rw [List.getElem?_append_left hlength, hanswer]
  exact (block_of_answer answer (i + 1)).congr (iff_of_false id (h i hlength))

theorem Milestone.Blocks.concat {answers : List Answer} {completed : Nat → Prop}
    {blocks : List (List Milestone)} {last : List Milestone} (h : Blocks answers completed blocks)
    (hlast : Block (blocks.length + 1) answers[blocks.length]? (completed blocks.length) last) :
    Blocks answers completed (blocks ++ [last]) := by
  intro i block hblock
  by_cases hi : i < blocks.length
  · rw [List.getElem?_append_left hi] at hblock
    exact h i block hblock
  · have hlength : i < (blocks ++ [last]).length := (List.getElem?_eq_some_iff.mp hblock).1
    obtain rfl : i = blocks.length := by
      rw [List.length_append, List.length_singleton] at hlength
      omega
    rw [List.getElem?_concat_length] at hblock
    exact Option.some.inj hblock ▸ hlast

/-- The blocks of a call that has been conducted: only the last one may tell of a result. -/
theorem Conducted.exists_blocks {s : CallSetting σ α} {first run : Run σ} {answers : List Answer}
    {result : Except Error (Response α)} (h : Conducted s first answers run result) :
    ∃ blocks : List (List Milestone),
      run.journal.milestones = .callStarted ::
        (first.request.body.length?.map Milestone.requestLength).toList ++ blocks.flatten ∧
      blocks.length = run.journal.started ∧ answers.length = run.journal.dispatches.length ∧
      answers.length ≤ blocks.length ∧ (∀ response, result = .ok response → blocks ≠ []) ∧
      Milestone.Blocks answers
        (fun i => i + 1 = blocks.length ∧ ∃ response, result = .ok response) blocks := by
  cases h with
  | undecorated refused unanswered marks =>
    subst unanswered
    refine ⟨[], ?_, ?_, ?_, Nat.le_refl _, by simp, fun i block hblock => by cases hblock⟩
    · rw [← Journal.filterMap_marks, marks]
      cases first.request.body.length? <;> rfl
    · rw [← Journal.countP_marks, marks]
      cases first.request.body.length? <;> rfl
    · rw [← Journal.count_marks, marks]
      cases first.request.body.length? <;> rfl
  | @failed e stub stalled underway =>
    obtain ⟨hmilestones, hstarted, hsent⟩ := underway.counts
    obtain ⟨hnone, hstub⟩ := Mark.stub_counts stalled
    rw [hnone, Nat.add_zero] at hsent
    have hfailed : ∀ i n, ¬(i + 1 = n ∧ ∃ response : Response α, Except.error e = .ok response) :=
      by simp
    rcases hstub with rfl | hone
    · refine ⟨s.blocks answers, ?_, ?_, hsent.symm, by simp, by simp,
        CallSetting.blocks_told (List.prefix_refl _) fun i _ => hfailed i _⟩
      · rw [hmilestones]
        exact List.append_nil _
      · rw [hstarted, CallSetting.length_blocks]
        rfl
    · refine ⟨s.blocks answers ++ [stub.filterMap Mark.milestone?], ?_, ?_, hsent.symm, by simp,
        by simp, (CallSetting.blocks_told (List.prefix_refl _) fun i _ => hfailed i _).concat ?_⟩
      · rw [hmilestones, List.flatten_append, List.flatten_singleton, List.append_assoc]
      · rw [hstarted, hone, List.length_append, CallSetting.length_blocks, List.length_singleton]
      · rw [CallSetting.length_blocks, List.getElem?_eq_none (Nat.le_refl _)]
        exact (Milestone.block_of_stub stalled).congr (iff_of_false id (hfailed _ _))
  | @succeeded response answer last readable underway =>
    obtain ⟨before, rfl⟩ := List.getLast?_eq_some_iff.mp last
    obtain ⟨hmilestones, hstarted, hsent⟩ := underway.counts
    have hlength : (s.blocks before ++
        [s.told answer (before.length + 1) ++ [Milestone.responseCompleted]]).length =
          before.length + 1 := by
      rw [List.length_append, CallSetting.length_blocks, List.length_singleton]
    refine ⟨s.blocks before ++
      [s.told answer (before.length + 1) ++ [Milestone.responseCompleted]], ?_, ?_, ?_, by simp,
      by simp, ?_⟩
    · rw [hmilestones, CallSetting.blocks_concat]
      simp [Mark.milestone?]
    · rw [hstarted, hlength]
      simp [Mark.isStarted]
    · rw [hsent]
      simp
    · rw [hlength]
      refine Milestone.Blocks.concat ?_ ?_
      · refine CallSetting.blocks_told (List.prefix_append _ _) fun i hi hlast => ?_
        exact absurd (Nat.succ.inj hlast.1) (Nat.ne_of_lt hi)
      · rw [CallSetting.length_blocks, List.getElem?_concat_length]
        exact (CallSetting.block_of_result readable _).congr (iff_of_true trivial ⟨rfl, _, rfl⟩)

/-- What is told of a call that is not refused: that it starts, how long its payload is if that is
known, a block for each attempt, and at last whether it has succeeded. An exchange is told of in the
block of its attempt, once when it begins and once when there is a response, and the last block
tells of a result if and only if the call has one. -/
theorem milestones_of_call (c : Client σ) (handlers : Handlers σ α) (context : CallContext σ)
    (state : ClientState) (request : HttpRequest σ) (world : σ)
    (hs : state.isShutDown = false) :
    let report := (c.call handlers context state request world).1
    let answers := c.answers handlers context state request world
    ∃ blocks : List (List Milestone),
      report.journal.milestones = .callStarted ::
        (request.body.length?.map Milestone.requestLength).toList ++ blocks.flatten ++
          [.outcome report.result] ∧
      blocks.length = report.journal.started ∧ answers.length = report.journal.dispatches.length ∧
      answers.length ≤ blocks.length ∧ (∀ response, report.result = .ok response → blocks ≠ []) ∧
      ∀ i block, blocks[i]? = some block → block.Nodup ∧
        Milestone.Block (i + 1) answers[i]?
          (i + 1 = blocks.length ∧ ∃ response, report.result = .ok response) block := by
  intro report answers
  obtain ⟨n, result, conducted, -, hresult, hconducted, hmarks⟩ :=
    @Client.exists_conducted σ α c handlers context state request world hs
  obtain rfl : result = report.result := hresult.symm
  obtain ⟨blocks, hmilestones, hstarted, hsent, hle, hne, hblocks⟩ := hconducted.exists_blocks
  have hclosing : ∀ {s : CallSetting σ α} (result : Except Error (Response α)),
      (s.closing result).filterMap Mark.milestone? = [.outcome result] ∧
        (s.closing result).countP Mark.isStarted = 0 ∧ (s.closing result).count .sent = 0 := by
    intro s result
    cases result <;> simp [CallSetting.closing, List.filterMap_append, Mark.milestone?, List.count,
      List.countP_eq_zero, Mark.isStarted, Milestone.outcome]
  obtain ⟨houtcome, hnotStarted, hnotSent⟩ := hclosing report.result
  refine ⟨blocks, ?_, ?_, ?_, hle, hne, fun i block hblock => ?_⟩
  · rw [← Journal.filterMap_marks, hmarks, List.filterMap_append, Journal.filterMap_marks,
      hmilestones, houtcome]
    rfl
  · rw [hstarted, ← Journal.countP_marks, ← Journal.countP_marks, hmarks, List.countP_append,
      hnotStarted, Nat.add_zero]
  · rw [hsent, ← Journal.count_marks, ← Journal.count_marks, hmarks, List.count_append, hnotSent,
      Nat.add_zero]
  · exact ⟨(hblocks i block hblock).nodup, hblocks i block hblock⟩

open Rehearsal in
/-- A call that is sent to another address, is not answered there, and succeeds when it is
retried. -/
theorem milestones_of_call_elsewhere :
    let state := client.start 0
    let report := rehearse client expired unsigned state paid
      [elsewhere, .timeout, .answering .ok {}]
    state.isShutDown = false ∧ ∃ blocks : List (List Milestone),
      blocks.length = 3 ∧ report.journal.milestones =
        [.callStarted, .requestLength 7] ++ blocks.flatten ++ [.callSucceeded] ∧
      blocks.flatten = [.dispatchStarted, .dispatchCompleted, .retryStarted, .dispatchStarted,
        .retryStarted, .dispatchStarted, .dispatchCompleted, .responseStarted,
        .responseCompleted] := by
  intro state report
  obtain ⟨blocks, hmilestones, hlength, -⟩ := milestones_of_call client (handlers expired) unsigned
    state paid { steps := [elsewhere, .timeout, .answering .ok {}] } rfl
  have hfacts : report.journal.milestones = [.callStarted, .requestLength 7] ++
      [.dispatchStarted, .dispatchCompleted, .retryStarted, .dispatchStarted, .retryStarted,
        .dispatchStarted, .dispatchCompleted, .responseStarted, .responseCompleted] ++
      [.callSucceeded] ∧ report.journal.started = 3 := by
    simp only [report, rehearse, Client.call, CallM.call, CallM.conduct, CallM.attempts_eq_turnsIn]
    decide +kernel
  have hsame := hmilestones.symm.trans hfacts.1
  have hbetween : blocks.flatten = [.dispatchStarted, .dispatchCompleted, .retryStarted,
      .dispatchStarted, .retryStarted, .dispatchStarted, .dispatchCompleted, .responseStarted,
      .responseCompleted] := List.append_cancel_left (List.append_inj_left' hsame rfl)
  exact ⟨rfl, blocks, hlength.trans hfacts.2, hbetween ▸ hfacts.1, hbetween⟩

end ServiceCall
