import ServiceCall.Proofs.Call.Actions

/-!
The course of a call. What every turn keeps holds where the attempts end, and what holds where
they end is told of the report: what a call does before and after its attempts never fails.
-/

namespace ServiceCall

variable {σ α : Type}

namespace CallM

/-! ### Loops -/

/-- `I` is known wherever a turn starts. -/
theorem turns_ends {s : CallSetting σ α} {o : Origin} {I : Tally → Directive σ → Run σ → Prop}
    {done : Response α → Run σ → Prop} {failed : Error → Run σ → Prop}
    (hturn : ∀ tally directive run, I tally directive run →
      Ends (turn s o tally directive) run
        (fun t run' => match t with
          | .finished response => done response run'
          | .again tally' directive' _ => I tally' directive' run') failed)
    (tally : Tally) (directive : Directive σ) (run : Run σ) (h : I tally directive run) :
    Ends (turns s o tally directive) run done failed := by
  induction hn : tally.left s.limits using Nat.strongRecOn
    generalizing tally directive run with
  | _ n ih =>
    rw [turns]
    refine (hturn tally directive run h).bind fun t run' ht => ?_
    cases t with
    | finished response => exact ht
    | again tally' directive' less => exact ih _ (hn ▸ less) _ _ _ ht rfl

/-- Turns, of which there are no more than a number. Unlike `turns` they can be computed. -/
def turnsIn (s : CallSetting σ α) (o : Origin) :
    Nat → Tally → Directive σ → CallM σ (Response α)
  | 0, _, _ => throw .clientShutdown
  | n + 1, tally, directive => do
    match ← turn s o tally directive with
    | .finished response => return response
    | .again tally directive _ => turnsIn s o n tally directive

theorem turns_eq_turnsIn (s : CallSetting σ α) (o : Origin) {n : Nat} {tally : Tally}
    (h : tally.left s.limits < n) (directive : Directive σ) :
    turns s o tally directive = turnsIn s o n tally directive := by
  induction n generalizing tally directive with
  | zero => omega
  | succ n ih =>
    rw [turns, turnsIn]
    congr 1
    funext t
    cases t with
    | finished response => rfl
    | again tally' directive' less => exact ih (by omega) directive'

theorem attempts_eq_turnsIn (s : CallSetting σ α) : attempts s = (do
    let r ← request
    unless r.body.isRemarked do markBody
    turnsIn s (.of r) (({} : Tally).left s.limits + 1) {} .start) := by
  simp only [attempts, turns_eq_turnsIn s _ (Nat.lt_succ_self _)]

/-! ### Actions that cannot fail -/

theorem Footprint.ends_of_no_failure {β : Type} {effects : List Effect} {act : CallM σ β}
    (h : Footprint effects act) (hn : ∀ code, .fails code ∉ effects) (run : Run σ)
    {failed : Error → Run σ → Prop} : Ends act run (fun _ => Frame effects run) failed :=
  (h.ends run).mono (fun _ _ h => h) fun _ _ h => absurd h.2 (hn _)

theorem Footprint.exists_ok {β : Type} {effects : List Effect} {act : CallM σ β}
    (h : Footprint effects act) (hn : ∀ code, .fails code ∉ effects) (run : Run σ) :
    ∃ value run', act run = .ok value run' ∧ Frame effects run run' :=
  (h.ends_of_no_failure hn run).exists_ok

/-- The start of an attempt is an event, with which only metrics change. -/
theorem startAttempt_ends (s : CallSetting σ α) (directive : Directive σ) (number : Nat)
    (run : Run σ) {failed : Error → Run σ → Prop} :
    Ends (startAttempt s directive number) run
      (fun _ => Frame [.metrics, .clientMetrics]
        { run with journal := run.journal ++ [.attemptStarted number directive] }) failed := by
  have hcount : Footprint [.metrics, .clientMetrics] (do
      count fun m => { m with requests := m.requests + 1 }
      countForClient s fun m => { m with attempts := m.attempts + 1 } : CallM σ Unit) :=
    .bind (.count _ (by decide)) fun _ => .countForClient s _ (by decide)
  unfold startAttempt
  rw [ends_bind, ends_record]
  exact hcount.ends_of_no_failure (by simp) _

theorem ends_settle {β : Type} {act : CallM σ β} {run : Run σ}
    {ok : Except Error β → Run σ → Prop} {failed : Error → Run σ → Prop} :
    Ends (settle act) run ok failed ↔
      Ends act run (fun value => ok (.ok value)) fun e => ok (.error e) := by
  unfold Ends settle
  cases act run <;> rfl

theorem ends_onFailure {β : Type} {act : CallM σ β} {undo : Run σ → Run σ} {run : Run σ}
    {ok : β → Run σ → Prop} {failed : Error → Run σ → Prop} :
    Ends (onFailure act undo) run ok failed ↔
      Ends act run ok fun e run' => failed e (undo run') := by
  unfold Ends onFailure
  cases act run <;> rfl

/-! ### From the request to the result -/

/-- What a call may do before it sends anything. -/
def beginEffects : List Effect := [.clientMetrics, .records .milestone]

/-- What a call may do to its request before the first attempt. -/
def outsetEffects : List Effect :=
  anyRequest ++ [.records .hook, .fails .invalidHeaderName, .fails .invalidHeaderValue]

/-- What a call may do once its result is known. -/
def finishEffects : List Effect := [.clientMetrics, .records .hook, .records .milestone]

/-- What happens to the request before the first attempt. -/
def setOut (s : CallSetting σ α) : CallM σ Unit := do
  enrich s
  beforeSend s

theorem setOut_footprint (s : CallSetting σ α) : Footprint outsetEffects (setOut s) :=
  .bind ((enrich_footprint s).mono (by decide)) fun _ => (beforeSend_footprint s).mono (by decide)

theorem conduct_eq_setOut (s : CallSetting σ α) : conduct s = (do
    setOut s
    onFailure (attempts s) fun run => rewind (giveCapacityBack s run)) := by
  simp only [conduct, setOut, bind_assoc]

theorem conduct_ends {s : CallSetting σ α} {run : Run σ} {ok : Response α → Run σ → Prop}
    {failed : Error → Run σ → Prop}
    (hfail : ∀ e stopped, Frame outsetEffects run stopped → failed e stopped)
    (h : ∀ outset, setOut s run = .ok () outset → Frame outsetEffects run outset →
      Ends (attempts s) outset ok fun e last => failed e (rewind (giveCapacityBack s last))) :
    Ends (conduct s) run ok failed := by
  have hout := (setOut_footprint s).ends run
  rw [conduct_eq_setOut]
  refine ends_bind.mpr ?_
  unfold Ends at hout
  split at hout
  · next _ outset heq => exact (ends_ok_iff heq).mpr (ends_onFailure.mpr (h outset heq hout))
  · next e stopped heq => exact (ends_error_iff heq).mpr (hfail e stopped hout.1)

theorem finish_ends (s : CallSetting σ α) (listener : Option (MilestoneListener σ))
    (result : Except Error (Response α)) (run : Run σ) :
    Ends (do finish s listener result; collect s; countForClient s .ended; return result) run
      (fun value last => value = result ∧ Frame finishEffects run last) fun _ _ => False := by
  have hn : ∀ code, Effect.fails code ∉ finishEffects := fun code => by simp [finishEffects]
  refine ((finish_footprint s listener result).ends_of_no_failure hn run).bind
    fun _ finished h => ?_
  refine (((collect_footprint s).mono (by decide)).ends_of_no_failure hn finished).bind
    fun _ collected h' => ?_
  refine ((Footprint.countForClient s .ended (by decide)).ends_of_no_failure hn collected).bind
    fun _ last h'' => ?_
  exact ⟨rfl, (h.trans h').trans h''⟩

/-- A fact about results holds of every call if it holds wherever the attempts end, whatever may
follow. -/
theorem call_ends {s : CallSetting σ α} {run : Run σ}
    {P : Except Error (Response α) → Run σ → Prop}
    (h : ∀ begun, begin s run.request.subject.listener run = .ok () begun →
      Frame beginEffects run begun →
      Ends (conduct s) begun
        (fun response conducted => ∀ last, Frame finishEffects conducted last →
          P (.ok response) last)
        fun e conducted => ∀ last, Frame finishEffects conducted last → P (.error e) last) :
    Ends (call s) run P fun _ _ => False := by
  have hn : ∀ code, Effect.fails code ∉ beginEffects := fun code => by simp [beginEffects]
  unfold call
  refine ends_bind.mpr ?_
  rw [ends_request]
  obtain ⟨_, begun, hok, hbegin⟩ :=
    (begin_footprint s run.request.subject.listener).exists_ok hn run
  rw [ends_bind, ends_ok_iff hok]
  refine ends_bind.mpr (ends_settle.mpr ((h begun hok hbegin).mono ?_ ?_))
  · intro response conducted hP
    refine (finish_ends s _ (.ok response) conducted).mono ?_ fun _ _ h => h
    rintro _ last ⟨rfl, hlast⟩
    exact hP last hlast
  · intro e conducted hP
    refine (finish_ends s _ (.error e) conducted).mono ?_ fun _ _ h => h
    rintro _ last ⟨rfl, hlast⟩
    exact hP last hlast

end CallM

namespace Client

variable {c : Client σ} {handlers : Handlers σ α} {context : CallContext σ} {state : ClientState}
  {request : HttpRequest σ} {world : σ}

/-- The setting of the call that starts now. -/
def settingAt (c : Client σ) (handlers : Handlers σ α) (context : CallContext σ)
    (request : HttpRequest σ) (world : σ) : CallSetting σ α :=
  c.setting context handlers request.subject (c.surroundings.now world).1

/-- Where the call that starts now begins. -/
def runAt (c : Client σ) (state : ClientState) (request : HttpRequest σ) (world : σ) : Run σ :=
  Client.run state request (c.surroundings.now world).2

/-- The report tells the result and the last run. -/
structure Reports (report : CallReport σ α) (result : Except Error (Response α)) (run : Run σ) :
    Prop where
  result : report.result = result
  request : report.request = run.request
  client : report.client = run.client
  journal : report.journal = run.journal

theorem call_of_isShutDown (h : state.isShutDown = true) :
    (c.call handlers context state request world).1 =
      { result := .error .clientShutdown, request, context, client := state, journal := [] } := by
  rw [Client.call, if_pos h]

theorem call_reports {P : Except Error (Response α) → Run σ → Prop}
    (hs : state.isShutDown = false)
    (h : CallM.Ends (CallM.call (c.settingAt handlers context request world))
      (c.runAt state request world) P fun _ _ => False) :
    ∃ result run, P result run ∧
      Reports (c.call handlers context state request world).1 result run := by
  unfold CallM.Ends settingAt runAt at h
  simp only [Client.call, hs, Bool.false_eq_true, if_false]
  rcases hnow : c.surroundings.now world with ⟨now, world'⟩
  rw [hnow] at h
  dsimp only at h ⊢
  split at h
  · next result run heq => exact ⟨result, run, h, by rw [heq]; exact ⟨rfl, rfl, rfl, rfl⟩⟩
  · exact h.elim

end Client

end ServiceCall
