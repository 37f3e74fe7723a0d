import ServiceCall.Proofs.Call.Invariant
import ServiceCall.Proofs.Call.Law
import ServiceCall.Rehearsal.Client

/-!
Corrections of the clock. The client keeps the last one that was found, and a request takes it over
before it is signed, unless it is 0: then the request is signed with the offset that it had.
-/

namespace ServiceCall

variable {σ α : Type}

/-! ### The clock by the journal -/

/-- The correction of the clock that was found. -/
def Event.correction? : Event σ → Option Int
  | .clockSkewed headers failure now => ClockOffset.compute? headers failure.message now
  | _ => none

theorem Event.correction?_eq_none {e : Event σ} (h : e.kind ≠ .clockSkewed) :
    e.correction? = none := by
  cases e <;> first | rfl | exact absurd rfl h

namespace Journal

variable {j new : Journal σ}

/-- The offset that a client has after the corrections in the journal. -/
def clock (initial : Int) (j : Journal σ) : Int :=
  j.foldl (fun offset e => e.correction?.getD offset) initial

theorem clock_append (initial : Int) (j new : Journal σ) :
    (j ++ new).clock initial = new.clock (j.clock initial) :=
  List.foldl_append

theorem clock_concat (initial : Int) (j : Journal σ) (e : Event σ) :
    (j ++ [e]).clock initial = e.correction?.getD (j.clock initial) :=
  List.foldl_concat ..

theorem clock_eq_self (initial : Int) (h : ∀ e ∈ j, e.correction? = none) :
    j.clock initial = initial := by
  induction j with
  | nil => rfl
  | cons e j ih =>
    have hj : clock initial j = initial := ih fun e he => h e (.tail _ he)
    rw [clock, List.foldl_cons, h e (.head _)]
    exact hj

/-- A correction lasts until the next one. -/
theorem clock_of_last (initial : Int) (before : Journal σ) (e : Event σ) {between : Journal σ}
    (h : ∀ e ∈ between, e.correction? = none) :
    (before ++ e :: between).clock initial = e.correction?.getD (before.clock initial) := by
  rw [List.append_cons, clock_append, clock_eq_self _ h, clock_concat]

/-- Neither a dispatch nor a signature, and no correction either but one to 0. -/
structure Calm (e : Event σ) : Prop where
  dispatched : e.kind ≠ .dispatched
  signing : e.kind ≠ .signing
  correction : ∀ seconds, e.correction? = some seconds → seconds = 0

/-- The transport has left the offset in the request, and nothing has happened to it since. -/
def LeftBy (t : Transport σ) (j : Journal σ) (offset : Int) : Prop :=
  ∀ before sent limit inFlight since, j = before ++ .dispatched sent limit inFlight :: since →
    (∀ e ∈ since, Calm e) → ∃ world, offset = (t.send sent limit world).1.2.timeOffset

theorem LeftBy.append {t : Transport σ} {offset : Int} (h : LeftBy t j offset)
    (hnew : ∀ e ∈ new, e.kind ≠ .dispatched) : LeftBy t (j ++ new) offset := by
  intro before sent limit inFlight since heq hcalm
  rcases List.append_eq_append_iff.mp heq with ⟨mid, rfl, hmid⟩ | ⟨mid, rfl, hmid⟩
  · exact absurd rfl (hnew (.dispatched sent limit inFlight) (by rw [hmid]; simp))
  · cases mid with
    | nil =>
      rw [List.nil_append] at hmid
      exact absurd rfl (hnew (.dispatched sent limit inFlight) (hmid ▸ .head _))
    | cons e mid =>
      obtain ⟨rfl, rfl⟩ := List.cons.inj hmid
      exact h before sent limit inFlight mid rfl fun e he => hcalm e (List.mem_append_left _ he)

/-- After an event that is not calm the request may have any offset. -/
theorem leftBy_concat {t : Transport σ} {e : Event σ} (hd : e.kind ≠ .dispatched)
    (hcalm : ¬ Calm e) (offset : Int) : LeftBy t (j ++ [e]) offset := by
  intro before sent limit inFlight since heq hsince
  rcases List.eq_nil_or_concat since with rfl | ⟨since, last, rfl⟩
  · obtain ⟨-, hlast⟩ := List.append_inj' heq rfl
    exact absurd (congrArg Event.kind (List.cons.inj hlast).1) hd
  · rw [List.concat_eq_append, ← List.cons_append, ← List.append_assoc] at heq
    obtain ⟨-, hlast⟩ := List.append_inj' heq rfl
    exact absurd ((List.cons.inj hlast).1 ▸ hsince last (by simp)) hcalm

/-- A dispatch leaves what its transport leaves. -/
theorem leftBy_dispatched (t : Transport σ) (sent : HttpRequest σ) (limit : Option Duration)
    (inFlight : Nat) (world : σ) :
    LeftBy t (j ++ [.dispatched sent limit inFlight])
      (t.send sent limit world).1.2.timeOffset := by
  intro before sent' limit' inFlight' since heq hsince
  rcases List.eq_nil_or_concat since with rfl | ⟨since, last, rfl⟩
  · obtain ⟨-, hlast⟩ := List.append_inj' heq rfl
    obtain ⟨rfl, rfl, -⟩ := Event.dispatched.inj (List.cons.inj hlast).1
    exact ⟨world, rfl⟩
  · rw [List.concat_eq_append, ← List.cons_append, ← List.append_assoc] at heq
    obtain ⟨-, hlast⟩ := List.append_inj' heq rfl
    exact absurd rfl ((List.cons.inj hlast).1 ▸ hsince last (by simp)).dispatched

/-- The offset is still the one that the transport of the last attempt left in the request: the one
with which that was sent, unless the transport changes it. -/
structure Stale (t : Transport σ) (j : Journal σ) (offset : Int) : Prop where
  left : j.LeftBy t offset
  sent : (∀ r limit world, (t.send r limit world).1.2.timeOffset = r.timeOffset) →
    ∀ before sent limit inFlight since, j = before ++ .dispatched sent limit inFlight :: since →
      (∀ e ∈ since, Calm e) → offset = sent.timeOffset

theorem LeftBy.stale {t : Transport σ} {offset : Int} (h : j.LeftBy t offset) :
    j.Stale t offset := by
  refine ⟨h, fun hkeeps before sent limit inFlight since hj hcalm => ?_⟩
  obtain ⟨world, rfl⟩ := h before sent limit inFlight since hj hcalm
  exact hkeeps sent limit world

end Journal

/-! ### Every signature -/

/-- A signature is made with the offset of the client, which the request takes over unless it
is 0. Nothing but a failure of the clock corrects it. -/
def Timely (t : Transport σ) (initial : Int) (before : Journal σ) : Event σ → Prop
  | .signing _ offset r =>
    offset = before.clock initial ∧ (offset ≠ 0 → r.timeOffset = offset) ∧
      (offset = 0 → before.LeftBy t r.timeOffset)
  | .clockSkewed _ failure _ => failure.isClockSkew = true
  | _ => True

/-- The client and the journal agree on the offset, and so far every signature was in time. -/
structure InTime (t : Transport σ) (initial : Int) (run : Run σ) : Prop where
  cell : run.client.clockOffset = run.journal.clock initial
  left : run.journal.LeftBy t run.request.timeOffset
  obeys : run.journal.Obeys (Timely t initial)

def clockEffects : List Effect :=
  [.clockOffset, .request .timeOffset, .records .clockSkewed, .records .dispatched,
    .records .signing]

theorem timely_of_kind {t : Transport σ} {initial : Int} {before : Journal σ} {e : Event σ}
    (hsigning : e.kind ≠ .signing) (hskewed : e.kind ≠ .clockSkewed) :
    Timely t initial before e := by
  cases e <;> trivial

theorem inTime_dependsOn (t : Transport σ) (initial : Int) :
    DependsOn clockEffects (InTime t initial) := by
  intro effects run run' hn hf h
  obtain ⟨new, hnew, hk⟩ := hf.journal
  have hkind : ∀ kind, .records kind ∈ clockEffects → ∀ e ∈ new, e.kind ≠ kind :=
    fun kind hw e he hkind => hn _ hw (hkind ▸ hk e he)
  have hoffset : run'.request.timeOffset = run.request.timeOffset :=
    hf.part (hn (.request .timeOffset) (by decide))
  constructor
  · rw [hf.clockOffset (hn _ (by decide)), hnew, Journal.clock_append,
      Journal.clock_eq_self _ fun e he => Event.correction?_eq_none (hkind _ (by decide) e he),
      h.cell]
  · rw [hnew, hoffset]
    exact h.left.append (hkind _ (by decide))
  · rw [hnew]
    exact h.obeys.append_of_free fun e he _ => timely_of_kind (hkind _ (by decide) e he)
      (hkind _ (by decide) e he)

namespace InTime

variable {t : Transport σ} {initial : Int} {run run' : Run σ}

/-- Once it is signed, the request may be given any offset. -/
theorem signed (h : InTime t initial run) {signer : Signer σ} {offset : Int} {r : HttpRequest σ}
    (hr : Timely t initial run.journal (.signing signer offset r))
    (hj : run'.journal = run.journal ++ [.signing signer offset r])
    (hcell : run'.client.clockOffset = run.client.clockOffset) : InTime t initial run' where
  cell := by
    rw [hcell, h.cell, hj, Journal.clock_concat]
    rfl
  left := by
    rw [hj]
    exact Journal.leftBy_concat (by simp [Event.kind]) (fun hcalm => hcalm.signing rfl) _
  obeys := by
    rw [hj]
    exact h.obeys.concat hr

/-- After a failure of the clock the client has the correction, if one was found. Only then, and if
it is not 0, may the request have another offset. -/
theorem skewed (h : InTime t initial run) {headers : Headers} {failure : ServiceError} {now : Int}
    (hskew : failure.isClockSkew = true)
    (hj : run'.journal = run.journal ++ [.clockSkewed headers failure now])
    (hcell : run'.client.clockOffset =
      (ClockOffset.compute? headers failure.message now).getD run.client.clockOffset)
    (hoffset : (∀ seconds, ClockOffset.compute? headers failure.message now = some seconds →
      seconds = 0) → run'.request.timeOffset = run.request.timeOffset) : InTime t initial run' where
  cell := by
    rw [hcell, h.cell, hj, Journal.clock_concat]
    rfl
  left := by
    rw [hj]
    by_cases hzero : ∀ seconds, ClockOffset.compute? headers failure.message now = some seconds →
        seconds = 0
    · rw [hoffset hzero]
      exact h.left.append (by simp [Event.kind])
    · have hcalm : ¬ Journal.Calm (.clockSkewed headers failure now : Event σ) :=
        fun hcalm => hzero hcalm.correction
      exact Journal.leftBy_concat (by simp [Event.kind]) hcalm _
  obeys := by
    rw [hj]
    exact h.obeys.concat hskew

end InTime

namespace CallM

variable {s : CallSetting σ α} {initial : Int} {run : Run σ}

theorem sign_inTime {t : Transport σ} (h : InTime t initial run) (signer : Signer σ)
    (credentials : Credentials) :
    Ends (sign signer credentials) run (fun _ => InTime t initial) fun _ => InTime t initial := by
  unfold sign
  rw [ends_bind, ends_get]
  dsimp only
  split
  · next hzero =>
    simp only [ends_bind, ends_request, ends_record, ends_performOnRequest, ends_ofExcept]
    have hr : Timely t initial run.journal
        (.signing signer run.client.clockOffset run.request) :=
      ⟨h.cell, fun hne => absurd hzero hne, fun _ => h.left⟩
    split
    · exact h.signed hr rfl rfl
    · exact h.signed hr rfl rfl
  · next hne =>
    simp only [ends_bind, ends_revise, ends_request, ends_record, ends_performOnRequest,
      ends_ofExcept]
    have hr : Timely t initial run.journal (.signing signer run.client.clockOffset
        { run.request with timeOffset := run.client.clockOffset }) :=
      ⟨h.cell, fun _ => rfl, fun hzero => absurd hzero hne⟩
    split
    · exact h.signed hr rfl rfl
    · exact h.signed hr rfl rfl

theorem dispatch_inTime (h : InTime s.client.transport initial run) (limit : Option Duration) :
    Ends (dispatch s limit) run (fun _ => InTime s.client.transport initial)
      fun _ => InTime s.client.transport initial := by
  unfold dispatch
  simp only [ends_bind, ends_request, ends_get, ends_record, ends_performOnRequest]
  constructor
  · rw [Journal.clock_append]
    exact h.cell
  · exact Journal.leftBy_dispatched _ _ _ _ _
  · exact h.obeys.concat trivial

theorem correctClock_inTime {t : Transport σ} (h : InTime t initial run) (headers : Headers)
    (e : ServiceError) :
    Ends (correctClock s headers e) run (fun _ => InTime t initial) fun _ => InTime t initial := by
  unfold correctClock
  split
  · next hskew =>
    simp only [ends_bind, ends_perform, ends_record, ends_get, ends_modify]
    generalize (s.client.surroundings.timeOfDay run.world).1 = now
    unfold ClockOffset.correct
    cases hfound : ClockOffset.compute? headers e.message now with
    | none => exact h.skewed hskew rfl (by rw [hfound]; rfl) fun _ => rfl
    | some seconds =>
      dsimp only
      split
      · exact h.skewed hskew rfl (by rw [hfound]; rfl) fun _ => rfl
      · next hne =>
        simp only [ends_bind, ends_revise, ends_countForClient]
        exact h.skewed hskew rfl (by rw [hfound]; rfl) fun hzero => absurd (hzero _ hfound) hne
  · exact h

end CallM

theorem inTime_callInvariant (s : CallSetting σ α) (initial : Int) :
    CallInvariant s clockEffects (InTime s.client.transport initial) where
  dependsOn := inTime_dependsOn _ initial
  loud := by decide
  sign := fun signer credentials _ h => CallM.sign_inTime h signer credentials
  dispatch := fun limit _ h => CallM.dispatch_inTime h limit
  correctClock := fun headers e _ h => CallM.correctClock_inTime h headers e

/-- Before the first attempt there is nothing to be in time with. -/
theorem inTime_of_outset {run outset : Run σ} (t : Transport σ)
    (hf : Frame (CallM.beginEffects ++ CallM.outsetEffects) run outset) (hj : run.journal = []) :
    InTime t run.client.clockOffset outset := by
  obtain ⟨new, hnew, hk⟩ := hf.journal
  rw [hj, List.nil_append] at hnew
  have hkind : ∀ kind, .records kind ∉ CallM.beginEffects ++ CallM.outsetEffects →
      ∀ e ∈ new, e.kind ≠ kind := fun kind hn e he hkind => hn (hkind ▸ hk e he)
  constructor
  · rw [hf.clockOffset (by decide), hnew, Journal.clock_eq_self _ fun e he =>
      Event.correction?_eq_none (hkind _ (by decide) e he)]
  · rw [hnew]
    intro before sent limit inFlight since heq
    exact absurd rfl (hkind .dispatched (by decide) (.dispatched sent limit inFlight)
      (by rw [heq]; simp))
  · rw [hnew, ← List.nil_append new]
    exact (Journal.obeys_nil _).append_of_free fun e he _ =>
      timely_of_kind (hkind _ (by decide) e he)
      (hkind _ (by decide) e he)

/-- Every signature of a call is in time, and the client ends up with the last correction. -/
theorem clock_of_call (c : Client σ) (handlers : Handlers σ α) (context : CallContext σ)
    (state : ClientState) (request : HttpRequest σ) (world : σ) :
    let report := (c.call handlers context state request world).1
    report.client.clockOffset = report.journal.clock state.clockOffset ∧
      report.journal.Obeys (Timely c.transport state.clockOffset) := by
  cases hs : state.isShutDown with
  | true =>
    rw [Client.call_of_isShutDown hs]
    exact ⟨rfl, Journal.obeys_nil _⟩
  | false =>
    have hI := inTime_callInvariant (c.settingAt handlers context request world) state.clockOffset
    have hout : ∀ outset,
        Frame (CallM.beginEffects ++ CallM.outsetEffects) (c.runAt state request world) outset →
          InTime c.transport state.clockOffset outset :=
      fun outset hf => inTime_of_outset _ hf rfl
    obtain ⟨result, last, h, hreport⟩ := Client.call_reports hs (hI.call hout)
    dsimp only
    rw [hreport.client, hreport.journal]
    exact ⟨h.cell, h.obeys⟩

/-- The next signature after a failure of the clock is made with the correction that was found: the
client has it, and so has the request unless it is 0. After a correction to 0 the request is signed
with the offset that it was sent with. Where nothing was found the client keeps its offset; the
request takes that one over or, if it is 0, keeps its own. -/
theorem correction_reaches_signature (c : Client σ) (handlers : Handlers σ α)
    (context : CallContext σ) (state : ClientState) (request : HttpRequest σ) (world : σ)
    {before between after : Journal σ} {headers : Headers} {failure : ServiceError} {now : Int}
    {signer : Signer σ} {cell : Int} {r : HttpRequest σ}
    (hj : (c.call handlers context state request world).1.journal =
      before ++ .clockSkewed headers failure now ::
        (between ++ .signing signer cell r :: after))
    (hbetween : ∀ e ∈ between, e.correction? = none) :
    let found := ClockOffset.compute? headers failure.message now
    let sofar := before ++ .clockSkewed headers failure now :: between
    failure.isClockSkew = true ∧
      (∀ seconds, found = some seconds → seconds ≠ 0 →
        cell = seconds ∧ r.timeOffset = seconds) ∧
      (found = some 0 → cell = 0 ∧ sofar.Stale c.transport r.timeOffset) ∧
      (found = none → cell = before.clock state.clockOffset ∧
        (cell ≠ 0 → r.timeOffset = cell) ∧
        (cell = 0 → sofar.Stale c.transport r.timeOffset)) := by
  intro found sofar
  have hobeys := (clock_of_call c handlers context state request world).2
  have hskew : failure.isClockSkew = true := hobeys before (.clockSkewed headers failure now) _ hj
  obtain ⟨hclock, htaken, hleft⟩ :=
    hobeys sofar (.signing signer cell r) after (by rw [hj]; simp [sofar])
  have hcell : cell = found.getD (before.clock state.clockOffset) := by
    rw [hclock, Journal.clock_of_last _ _ _ hbetween]
    rfl
  refine ⟨hskew, fun seconds hfound hne => ?_, fun hfound => ?_, fun hfound => ?_⟩
  · obtain rfl : cell = seconds := by rw [hcell, hfound, Option.getD_some]
    exact ⟨rfl, htaken hne⟩
  · have hzero : cell = 0 := by rw [hcell, hfound, Option.getD_some]
    exact ⟨hzero, (hleft hzero).stale⟩
  · exact ⟨by rw [hcell, hfound, Option.getD_none], htaken, fun hzero => (hleft hzero).stale⟩

/-! ### Rehearsals -/

/-- What tells of the clock in a journal. -/
inductive ClockMark where
  | corrected (seconds : Option Int)
  | sent (offset : Int)
  | signed (cell offset : Int)
  deriving DecidableEq

def Event.clockMark? : Event σ → Option ClockMark
  | .clockSkewed headers failure now =>
    some (.corrected (ClockOffset.compute? headers failure.message now))
  | .dispatched r _ _ => some (.sent r.timeOffset)
  | .signing _ cell r => some (.signed cell r.timeOffset)
  | _ => none

namespace Rehearsal

/-- The clock of the service is an hour late. -/
def expiredAnHourAgo : Step :=
  .answering ⟨403⟩ (({} : Headers).set "date" ⟨Bytes.ofString "Thu, 09 Oct 2025 07:53:20 GMT"⟩)

/-- The clock of the service is right. -/
def expiredNow : Step :=
  .answering ⟨403⟩ (({} : Headers).set "date" ⟨Bytes.ofString "Thu, 09 Oct 2025 08:53:20 GMT"⟩)

/-- The first attempt is signed already. -/
def signed : CallContext Stage := context (.fixed (some .idle)) none

/-- Only an attempt that repeats the authentication is signed. -/
def signedAgain : CallContext Stage :=
  context (.fixed none) (some fun _ _ stage => (some { signer := some .idle }, stage))

end Rehearsal

theorem correction_reaches_signature_after_an_hour :
    let report := Rehearsal.rehearse Rehearsal.client Rehearsal.expired Rehearsal.signed
      (Rehearsal.client.start 0) Rehearsal.request
      [Rehearsal.expiredAnHourAgo, .answering .ok {}]
    ∃ before headers failure now between after signer r,
      report.journal = before ++ .clockSkewed headers failure now ::
        (between ++ .signing signer 3600 r :: after) ∧
      (∀ e ∈ between, e.correction? = none) ∧
      ClockOffset.compute? headers failure.message now = some 3600 ∧ r.timeOffset = 3600 := by
  intro report
  have hmarks : report.journal.filterMap Event.clockMark? =
      [.signed 0 0, .sent 0] ++ .corrected (some 3600) :: .signed 3600 3600 :: [.sent 3600] := by
    simp only [report, Rehearsal.rehearse, Client.call, CallM.call, CallM.conduct,
      CallM.attempts_eq_turnsIn]
    decide +kernel
  obtain ⟨earlier, rest, hj, -, hrest⟩ := List.filterMap_eq_append_iff.mp hmarks
  obtain ⟨before, e, rest', rfl, -, he, hrest'⟩ := List.filterMap_eq_cons_iff.mp hrest
  obtain ⟨between, e', after, rfl, hfree, he', -⟩ := List.filterMap_eq_cons_iff.mp hrest'
  have hbetween : ∀ e ∈ between, e.correction? = none := by
    intro e hmem
    have hmark := hfree e hmem
    refine Event.correction?_eq_none fun hkind => ?_
    cases e <;> simp [Event.kind, Event.clockMark?] at hkind hmark
  cases e with
  | clockSkewed headers failure now =>
    cases e' with
    | signing signer cell r =>
      have hfound : ClockOffset.compute? headers failure.message now = some 3600 := by
        simpa [Event.clockMark?] using he
      obtain rfl : cell = 3600 := (by simpa [Event.clockMark?] using he' : _ ∧ _).1
      rw [← List.append_assoc] at hj
      obtain ⟨-, hreaches, -⟩ :=
        correction_reaches_signature Rehearsal.client _ _ _ _ _ hj hbetween
      obtain ⟨-, hoffset⟩ := hreaches 3600 hfound (by decide)
      exact ⟨earlier ++ before, headers, failure, now, between, after, signer, r, hj, hbetween,
        hfound, hoffset⟩
    | _ => simp [Event.clockMark?] at he'
  | _ => simp [Event.clockMark?] at he

/-- A correction to 0 does not reach the next signature: the client has it, but the request is signed
and sent with the offset that was wrong. -/
theorem correction_misses_signature :
    (Rehearsal.rehearse Rehearsal.client Rehearsal.expired Rehearsal.signed
        (Rehearsal.client.start 100) Rehearsal.request
        [Rehearsal.expiredNow, .answering .ok {}]).journal.filterMap Event.clockMark? =
      [.signed 100 100, .sent 100, .corrected (some 0), .signed 0 100, .sent 100] := by
  simp only [Rehearsal.rehearse, Client.call, CallM.call, CallM.conduct,
    CallM.attempts_eq_turnsIn]
  decide +kernel

/-- Without any correction a request that has not been signed yet loses the offset it had. -/
theorem offset_lost_without_correction :
    (Rehearsal.rehearse Rehearsal.client Rehearsal.expired Rehearsal.signedAgain
        (Rehearsal.client.start 7) { Rehearsal.request with timeOffset := 50 }
        [.answering ⟨403⟩ {}, .answering .ok {}]).journal.filterMap Event.clockMark? =
      [.sent 50, .corrected none, .signed 7 7, .sent 7] := by
  simp only [Rehearsal.rehearse, Client.call, CallM.call, CallM.conduct,
    CallM.attempts_eq_turnsIn]
  decide +kernel

end ServiceCall
