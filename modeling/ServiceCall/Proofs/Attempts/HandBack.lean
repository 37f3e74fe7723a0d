import ServiceCall.Proofs.Attempts.Restoration
import ServiceCall.Proofs.Attempts.Redirection
import ServiceCall.Proofs.Call.Answer

/-!
The body of a call that has failed. A payload in memory, or in a source that can be sought, goes
back to its mark whatever has been read of it; so the caller gets it back where the attempts began,
if the mark could be set there.
-/

namespace ServiceCall

variable {σ α : Type}

/-! ### Bodies that go back -/

namespace Body

/-- Where the body is read next. -/
def position? : Body → Option Nat
  | .bytes _ position _ => some position
  | .seekable source _ => some source.position
  | _ => none

/-- Where a reset leads to. -/
def mark? : Body → Option Nat
  | .bytes _ _ mark => some mark
  | .seekable _ mark => some mark
  | _ => none

/-- The body goes back whenever it is told to. -/
def Seeks : Body → Prop
  | .bytes .. => True
  | .seekable source _ => source.seekError = none
  | _ => False

instance : DecidablePred Seeks
  | .empty => .isFalse id
  | .bytes .. => .isTrue trivial
  | .seekable source _ => inferInstanceAs (Decidable (source.seekError = none))
  | .buffered _ => .isFalse id
  | .stream _ => .isFalse id

/-- Whenever it is told to, the body goes back to the place, where `start` is left to read. -/
structure ReturnsTo (place : Nat) (start : Bytes) (b : Body) : Prop where
  seeks : b.Seeks
  mark : b.mark? = some place
  rewinds : b.Rewinds start

variable {b b' : Body} {place : Nat} {start : Bytes} {e : IoError}

theorem Seeks.isRemarked (h : b.Seeks) : b.isRemarked = false := by
  cases b <;> first | rfl | exact h.elim

theorem Seeks.isRepeatable (h : b.Seeks) : b.isRepeatable = true := by
  cases b <;> first | rfl | exact h.elim

theorem ReturnsTo.read (h : b.ReturnsTo place start) (n : Nat) :
    (b.read n).2.ReturnsTo place start := by
  refine ⟨?_, ?_, h.rewinds.read n⟩
  · cases b with
    | bytes data position mark => trivial
    | seekable source mark => exact (Source.alike_of_read rfl).seekError.trans h.seeks
    | _ => exact h.seeks.elim
  · cases b <;> exact h.mark

theorem Reads.returnsTo (hreads : b.Reads b') (h : b.ReturnsTo place start) :
    b'.ReturnsTo place start := by
  induction hreads with
  | refl => exact h
  | read _ n ih => exact ih.read n

theorem Seeks.returnsTo_of_mark (hs : b.Seeks) (h : b.mark = .ok b') :
    ∃ place, b.position? = some place ∧ b'.ReturnsTo place b.rest := by
  have hfresh := (fresh_of_mark hs.isRepeatable h).2
  cases b with
  | bytes data position mark =>
    obtain rfl := Except.ok.inj h
    exact ⟨position, rfl, trivial, rfl, hfresh.rewinds⟩
  | seekable source mark =>
    rw [Body.mark, Source.tell] at h
    split at h
    · exact absurd h (by simp [Except.map])
    · obtain rfl := Except.ok.inj h
      exact ⟨source.position, rfl, hs, rfl, hfresh.rewinds⟩
  | _ => exact hs.elim

/-- A body that has not been marked goes back to the mark that it had before. -/
theorem Seeks.returnsTo (hs : b.Seeks) :
    ∃ place start, b.mark? = some place ∧ b.ReturnsTo place start := by
  cases b with
  | bytes data position mark => exact ⟨mark, _, rfl, trivial, rfl, rfl⟩
  | seekable source mark => exact ⟨mark, _, rfl, hs, rfl, rfl⟩
  | _ => exact hs.elim

theorem ReturnsTo.reset (h : b.ReturnsTo place start) :
    ∃ b', b.reset = .ok b' ∧ b'.position? = some place ∧ b'.rest = start ∧
      b'.ReturnsTo place start := by
  obtain ⟨hseeks, hmark, hrewinds⟩ := h
  cases b with
  | bytes data position mark => exact ⟨_, rfl, hmark, hrewinds, trivial, hmark, hrewinds⟩
  | seekable source mark =>
    refine ⟨.seekable { source with position := mark } mark, ?_, hmark, hrewinds, hseeks, hmark,
      hrewinds⟩
    rw [Body.reset, Source.seek, show source.seekError = none from hseeks]
    rfl
  | _ => exact hseeks.elim

end Body

/-! ### Who reads the body -/

/-- Whatever has been done to the request, its body has been read at most. -/
def HttpRequest.ReadsBody (r r' : HttpRequest σ) : Prop := r.body.Reads r'.body

/-- Those who signed and the transport have at most read the body. -/
structure LeavesBody (c : Client σ) (j : Journal σ) : Prop where
  signers : ∀ signer offset r, .signing signer offset r ∈ j →
    signer.Touches HttpRequest.ReadsBody
  transport : c.transport.Touches HttpRequest.ReadsBody

theorem LeavesBody.of_append {c : Client σ} {j new : Journal σ} (h : LeavesBody c (j ++ new)) :
    LeavesBody c j where
  signers signer offset r hm := h.signers signer offset r (List.mem_append_left _ hm)
  transport := h.transport

/-! ### The attempts -/

/-- As long as nobody has done more than to read it, the body of the call goes back to the place. -/
def Held (c : Client σ) (place : Nat) (start : Bytes) (run : Run σ) : Prop :=
  LeavesBody c run.journal → run.request.body.ReturnsTo place start

variable {c : Client σ} {s : CallSetting σ α} {place : Nat} {start : Bytes} {run run' : Run σ}
  {effects : List Effect}

theorem held_dependsOn : DependsOn [.request .body] (Held c place start) := by
  intro effects run run' hn hf h hleaves
  have hbody : run'.request.body = run.request.body := hf.part (hn (.request .body) (.head _))
  obtain ⟨new, hnew, -⟩ := hf.journal
  rw [hnew] at hleaves
  rw [hbody]
  exact h hleaves.of_append

theorem Held.touched (h : Held c place start run) {new : Journal σ}
    (hj : run'.journal = run.journal ++ new)
    (hreads : LeavesBody c run'.journal → run.request.ReadsBody run'.request) :
    Held c place start run' := fun hleaves =>
  (hreads hleaves).returnsTo (h (hj ▸ hleaves).of_append)

namespace CallM

/-- Where somebody has done more than to read, there is nothing to show. -/
theorem Footprint.held {β : Type} {act : CallM σ β} (hact : Footprint effects act)
    (h : run.request.body.ReturnsTo place start →
      Ends act run (fun _ run' => run'.request.body.ReturnsTo place start)
        fun _ run' => run'.request.body.ReturnsTo place start)
    (hheld : Held c place start run) :
    Ends act run (fun _ => Held c place start) fun _ => Held c place start := by
  by_cases hleaves : LeavesBody c run.journal
  · exact (h (hheld hleaves)).mono (fun _ _ h _ => h) fun _ _ h _ => h
  · have hspoiled : ∀ run', Frame effects run run' → Held c place start run' := by
      intro run' hf hleaves'
      obtain ⟨new, hnew, -⟩ := hf.journal
      exact absurd (hnew ▸ hleaves').of_append hleaves
    exact (hact.ends run).mono (fun _ run' hf => hspoiled run' hf) fun _ run' hf =>
      hspoiled run' hf.1

theorem remark_returns (h : run.request.body.ReturnsTo place start) :
    Ends (do if (← request).body.isRemarked then markBody : CallM σ Unit) run
      (fun _ run' => run'.request.body.ReturnsTo place start)
      fun _ run' => run'.request.body.ReturnsTo place start := by
  rw [ends_bind, ends_request, if_neg (by simp [h.seeks.isRemarked])]
  exact h

theorem direct_returns (directive : Directive σ) (h : run.request.body.ReturnsTo place start) :
    Ends (direct directive) run (fun _ run' => run'.request.body.ReturnsTo place start)
      fun _ run' => run'.request.body.ReturnsTo place start := by
  have hbody : DependsOn [.request .body] fun run : Run σ =>
      run.request.body.ReturnsTo place start := by
    intro effects run run' hn hf h
    rwa [show run'.request.body = run.request.body from hf.part (hn (.request .body) (.head _))]
  exact (direct_footprint directive).keeps hbody (by decide) h

theorem prepare_returns (o : Origin) (directive : Directive σ)
    (h : run.request.body.ReturnsTo place start) :
    Ends (prepare o directive) run (fun _ run' => run'.request.body.ReturnsTo place start)
      fun _ run' => run'.request.body.ReturnsTo place start := by
  unfold prepare
  split
  · exact remark_returns h
  · obtain ⟨body, hreset, -, -, hbody⟩ := h.reset
    dsimp only
    rw [ends_bind, ends_revise]
    refine Ends.bind ((ends_replaceBody Body.reset).mpr ?_) fun _ _ h =>
      (direct_returns directive h).bind fun _ _ h => remark_returns h
    simp only [Origin.restore, hreset]
    exact hbody

theorem sign_held (h : Held c place start run) (signer : Signer σ) (credentials : Credentials) :
    Ends (sign signer credentials) run (fun _ => Held c place start)
      fun _ => Held c place start := by
  have hsigned : ∀ run', (∃ handed, Signed signer credentials handed run run') →
      Held c place start run' := by
    rintro run' ⟨handed, ⟨timeOffset, rfl⟩, hrequest, ⟨offset, hj⟩, -⟩
    refine h.touched hj fun hleaves => ?_
    rw [hj] at hleaves
    have hsigner := hleaves.signers signer offset _ (List.mem_append_right _ (.head _))
    rw [hrequest]
    exact hsigner { run.request with timeOffset } credentials run.world
  exact (sign_ends signer credentials run).mono (fun _ run' h => hsigned run' h)
    fun _ run' h => hsigned run' h

theorem sendOut_held (h : Held s.client place start run) (directive : Directive σ) (number : Nat) :
    Ends (sendOut s directive number) run (fun _ => Held s.client place start)
      fun _ => Held s.client place start := by
  unfold sendOut
  refine ((approach_footprint s directive number).keeps held_dependsOn (by decide) h).bind
    fun credentials _ h => ?_
  refine ((stampRetryHeader_footprint number).keeps held_dependsOn (by decide) h).bind
    fun _ _ h => ?_
  refine ((bindSigner_footprint s directive).keeps held_dependsOn (by decide) h).bind
    fun signer run h => ?_
  have hsign : Ends (signWith signer credentials) run (fun _ => Held s.client place start)
      fun _ => Held s.client place start := by
    unfold signWith
    split
    · exact sign_held h _ _
    · exact h
  refine hsign.bind fun _ _ h => ?_
  refine ((exchangeLimit_footprint s).keeps held_dependsOn (by decide) h).bind fun limit _ h => ?_
  refine ((announce_footprint _).keeps held_dependsOn (by decide) h).bind fun _ sending h => ?_
  refine (dispatch_ends s limit sending).bind fun answer run' ⟨hanswer, hj, _⟩ => ?_
  refine h.touched hj fun hleaves => ?_
  rw [show run'.request = _ from congrArg (·.1.2) hanswer]
  exact hleaves.transport _ _ _

theorem depart_held (h : Held s.client place start run) (o : Origin) (tally : Tally)
    (directive : Directive σ) :
    Ends (depart s o tally directive) run (fun _ => Held s.client place start)
      fun _ => Held s.client place start := by
  unfold depart
  refine ((checkInterruption_footprint s).keeps held_dependsOn (by decide) h).bind fun _ _ h => ?_
  refine ((startAttempt_footprint s directive _).keeps held_dependsOn (by decide) h).bind
    fun _ _ h => ?_
  refine ((prepare_footprint o directive).held (prepare_returns o directive) h).bind
    fun _ _ h => ?_
  refine ends_onFailure.mpr ((sendOut_held h directive _).mono_failed fun _ run h => ?_)
  exact held_dependsOn _ _ _ (by decide) (countFailedAttempt_frame run) h

/-- A call that gives up gives the body back where it goes back to. -/
theorem giveUp_returns (h : Held s.client place start run)
    (hleaves : LeavesBody s.client (giveUp s run).journal) :
    (giveUp s run).request.body.position? = some place ∧
      (giveUp s run).request.body.rest = start := by
  obtain ⟨new, hnew, -⟩ := (giveUp_frame s run).journal
  rw [hnew] at hleaves
  have hreturns := h hleaves.of_append
  have hbody : (giveCapacityBack s run).request.body = run.request.body :=
    (giveCapacityBack_frame s run).spares (.request .body) (by decide)
  rw [← hbody] at hreturns
  obtain ⟨body, hreset, hplace, hrest, -⟩ := hreturns.reset
  unfold giveUp rewind
  rw [if_pos hreturns.seeks.isRepeatable, hreset]
  exact ⟨hplace, hrest⟩

end CallM

/-! ### Every step -/

/-- What holds in each phase of a call whose attempts begin with the request `o`. -/
def Phase.HandsBack (c : Client σ) (first : Run σ) (o : HttpRequest σ) (place : Nat)
    (start : Bytes) : Phase σ α → Run σ → Prop
  | .outset, run => run = first
  | .begun, run => run.request = o
  | .ready .., run => Held c place start run
  | .waiting .., run => Held c place start run
  | .failing _, run => Held c place start run
  | .ended (.ok _), _ => True
  | .ended (.error _), run => LeavesBody c run.journal →
      run.request.body.position? = some place ∧ run.request.body.rest = start

namespace CallM

variable {o : HttpRequest σ} {first : Run σ}

theorem markOrigin_held (hs : o.body.Seeks)
    (hok : ∀ marked, o.body.mark = .ok marked → marked.ReturnsTo place start)
    (hfail : ∀ fault, o.body.mark = .error fault → o.body.ReturnsTo place start)
    (h : run.request = o) :
    Ends markOrigin run (fun _ => Held c place start) fun _ => Held c place start := by
  unfold markOrigin
  rw [ends_bind, ends_request, h]
  simp only [hs.isRemarked, Bool.false_eq_true, if_false]
  have hmark : Ends markBody run (fun _ => Held c place start)
      fun _ => Held c place start := by
    refine (ends_replaceBody Body.mark).mpr ?_
    rw [h]
    split
    · next marked hmark => exact fun _ => hok marked hmark
    · next fault hmark =>
      intro _
      rw [h]
      exact hfail fault hmark
  exact hmark.bind fun _ _ h => h

theorem handsBack_phaseInvariant (hs : o.body.Seeks)
    (hlaunch : Ends (launch s) first (fun _ run => run.request = o) fun _ _ => False)
    (hok : ∀ marked, o.body.mark = .ok marked → marked.ReturnsTo place start)
    (hfail : ∀ fault, o.body.mark = .error fault → o.body.ReturnsTo place start) :
    PhaseInvariant s (Phase.HandsBack s.client first o place start) where
  launch := by
    rintro run rfl
    exact hlaunch.mono (fun _ _ h => h) fun _ _ h => h.elim
  markOrigin := fun _ h => markOrigin_held hs hok hfail h
  depart := fun origin tally directive _ h => depart_held h origin tally directive
  arrive := by
    intro origin tally limit answer run h
    refine (arrive_keeps held_dependsOn (by decide) h).mono ?_ fun _ _ h => h
    intro t run' hleft
    cases t with
    | finished response => trivial
    | again tally' directive less => exact hleft.2
  giveUp := fun _ _ h hleaves => giveUp_returns h hleaves

end CallM

namespace Client

variable {handlers : Handlers σ α} {context : CallContext σ} {state : ClientState}
  {request : HttpRequest σ} {world : σ} {o : HttpRequest σ}

/-- A call whose attempts begin has been launched. -/
theorem launch_of_outset (ho : c.outset? handlers context state request world = some o) :
    CallM.Ends (CallM.launch (c.settingAt handlers context request world))
      (c.runAt state request world) (fun _ run => run.request = o) fun _ _ => False := by
  unfold outset? at ho
  unfold CallM.launch
  rw [CallM.ends_bind, CallM.ends_request, CallM.ends_bind]
  split at ho
  · cases ho
  · next begun hbegin =>
    refine (CallM.ends_ok_iff hbegin).mpr ?_
    split at ho
    · cases ho
    · next outset hset => exact (CallM.ends_ok_iff hset).mpr (Option.some.inj ho)

theorem body_of_failure (hs : o.body.Seeks)
    (ho : c.outset? handlers context state request world = some o)
    (hok : ∀ marked, o.body.mark = .ok marked → marked.ReturnsTo place start)
    (hfail : ∀ fault, o.body.mark = .error fault → o.body.ReturnsTo place start)
    {e : Error} (hresult : (c.call handlers context state request world).1.result = .error e)
    (hshut : state.isShutDown = false)
    (hleaves : LeavesBody c (c.call handlers context state request world).1.journal) :
    (c.call handlers context state request world).1.request.body.position? = some place ∧
      (c.call handlers context state request world).1.request.body.rest = start := by
  obtain ⟨n, -, result, conducted, last, hstands, hframe, hreport⟩ :=
    @exists_standsAfter_ended σ α c handlers context state request world hshut
  have hended := hstands.invariant
    (CallM.handsBack_phaseInvariant hs (launch_of_outset ho) hok hfail) rfl
  obtain ⟨new, hnew, -⟩ := hframe.journal
  have hbody : last.request.body = conducted.request.body := hframe.spares (.request .body) (by decide)
  rw [hreport.journal, hnew] at hleaves
  rw [hreport.result] at hresult
  rw [hreport.request, hbody]
  subst hresult
  exact hended hleaves.of_append

end Client

/-- A call that fails after its attempts have begun hands a body back that can be sought and has been
read at most. It stands where the attempts began if the mark could be set there; if not, it stands
at the mark with which it came. -/
theorem body_of_failed_call (c : Client σ) (handlers : Handlers σ α) (context : CallContext σ)
    (state : ClientState) (request : HttpRequest σ) (world : σ) {o : HttpRequest σ} {e : Error}
    (hshut : state.isShutDown = false)
    (ho : c.outset? handlers context state request world = some o) (hs : o.body.Seeks)
    (hresult : (c.call handlers context state request world).1.result = .error e)
    (hleaves : LeavesBody c (c.call handlers context state request world).1.journal) :
    let report := (c.call handlers context state request world).1
    (∀ marked, o.body.mark = .ok marked →
      report.request.body.position? = o.body.position? ∧
        report.request.body.rest = o.body.rest) ∧
    ∀ fault, o.body.mark = .error fault → report.request.body.position? = o.body.mark? := by
  constructor
  · intro marked hmark
    obtain ⟨place, hplace, hreturns⟩ := hs.returnsTo_of_mark hmark
    rw [hplace]
    refine Client.body_of_failure hs ho (fun marked' hmark' => ?_) (fun fault hfault => ?_) hresult
      hshut hleaves
    · rwa [← Except.ok.inj (hmark.symm.trans hmark')]
    · cases hmark.symm.trans hfault
  · intro fault hfault
    obtain ⟨place, start, hplace, hreturns⟩ := hs.returnsTo
    rw [hplace]
    refine (Client.body_of_failure hs ho (fun marked hmark => ?_) (fun _ _ => hreturns) hresult
      hshut hleaves).1
    cases hmark.symm.trans hfault

/-! ### Rehearsals -/

namespace Rehearsal

/-- Four of ten bytes have been read before. -/
def halfRead (positionError : Option IoError) : HttpRequest Stage :=
  let source : Source := { data := Bytes.ofString "0123456789", position := 4, positionError }
  { request with body := .seekable source 0 }

theorem leavesBody_of_unsigned {j : Journal Stage}
    (h : j.countP (fun e => e.kind = .signing) = 0) : LeavesBody client j where
  signers := by
    intro signer offset r hmem
    have hnone := List.countP_eq_zero.mp h _ hmem
    simp [Event.kind] at hnone
  transport := fun r limit stage => (transport_reads r limit stage).body

end Rehearsal

open Rehearsal in
/-- The payload is read to its end four times, and handed back as it was. -/
theorem body_of_failed_call_elsewhere :
    let report := rehearse client expired unsigned (client.start 0) (halfRead none)
      [.timeout, .timeout, .timeout, .timeout]
    failureCode? report.result = some .timeout ∧ report.journal.dispatches.length = 4 ∧
      report.request.body.position? = some 4 := by
  intro report
  have hfacts : failureCode? report.result = some .timeout ∧
      report.journal.dispatches.length = 4 ∧
      report.journal.countP (fun e => e.kind = .signing) = 0 := by
    simp only [report, rehearse, Client.call, CallM.call, CallM.conduct, CallM.attempts_eq_turnsIn]
    decide +kernel
  have hout : (client.outset? (handlers expired) unsigned (client.start 0) (halfRead none)
      { steps := [.timeout, .timeout, .timeout, .timeout] }).map (fun o =>
        (decide o.body.Seeks, o.body.position?, o.body.mark.toOption.isSome)) =
      some (true, some 4, true) := by
    decide +kernel
  obtain ⟨hcode, hsent, hunsigned⟩ := hfacts
  obtain ⟨o, ho, hbody⟩ := Option.map_eq_some_iff.mp hout
  simp only [Prod.mk.injEq, decide_eq_true_eq] at hbody
  obtain ⟨hseeks, hplace, hmarked⟩ := hbody
  obtain ⟨e, hresult, -⟩ := eq_error_of_failureCode? hcode
  have hreturned := (body_of_failed_call client (handlers expired) unsigned (client.start 0)
    (halfRead none) { steps := [.timeout, .timeout, .timeout, .timeout] } rfl ho hseeks hresult
    (leavesBody_of_unsigned hunsigned)).1
  refine ⟨hcode, hsent, ?_⟩
  cases hmark : o.body.mark with
  | error fault => simp [hmark, Except.toOption] at hmarked
  | ok marked => exact (hreturned marked hmark).1.trans hplace

open Rehearsal in
/-- The source cannot tell its position, so the mark is still at the front; there the body goes. -/
theorem body_moved_by_failed_mark :
    let fault : IoError := ⟨.other, "scripted"⟩
    let report := rehearse client expired unsigned (client.start 0) (halfRead (some fault)) []
    ∃ o, client.outset? (handlers expired) unsigned (client.start 0) (halfRead (some fault))
        { steps := [] } = some o ∧ o.body.Seeks ∧ o.body.position? = some 4 ∧
      failureCode? report.result = some .streamReset ∧
      report.request.body.position? = some 0 := by
  intro fault report
  have hout : (client.outset? (handlers expired) unsigned (client.start 0)
      (halfRead (some fault)) { steps := [] }).map (fun o =>
        (decide o.body.Seeks, o.body.position?)) = some (true, some 4) := by
    decide +kernel
  have hfacts : failureCode? report.result = some .streamReset ∧
      report.request.body.position? = some 0 := by
    simp only [report, rehearse, Client.call, CallM.call, CallM.conduct, CallM.attempts_eq_turnsIn]
    decide +kernel
  obtain ⟨o, ho, hbody⟩ := Option.map_eq_some_iff.mp hout
  simp only [Prod.mk.injEq, decide_eq_true_eq] at hbody
  exact ⟨o, ho, hbody.1, hbody.2, hfacts⟩

end ServiceCall
