import ServiceCall.Client.Call

/-!
Reasoning about the actions of a call. An action ends with a value or with a failure, and in
either case in a run; `Ends` says what holds of both, and each way to build an action has its
rule.
-/

namespace ServiceCall.CallM

variable {σ α β γ : Type}

/-- From `run` the action ends with a value and a run that satisfy `ok`, or with a failure and
a run that satisfy `failed`. -/
def Ends (act : CallM σ β) (run : Run σ) (ok : β → Run σ → Prop)
    (failed : Error → Run σ → Prop) : Prop :=
  match act run with
  | .ok value run => ok value run
  | .error e run => failed e run

variable {act : CallM σ β} {f : β → CallM σ γ} {run : Run σ}

theorem ends_ok_iff {ok : β → Run σ → Prop} {failed : Error → Run σ → Prop} {value : β}
    {run' : Run σ} (h : act run = .ok value run') : Ends act run ok failed ↔ ok value run' := by
  rw [Ends, h]

theorem ends_error_iff {ok : β → Run σ → Prop} {failed : Error → Run σ → Prop} {e : Error}
    {run' : Run σ} (h : act run = .error e run') : Ends act run ok failed ↔ failed e run' := by
  rw [Ends, h]

theorem ends_congr {act' : CallM σ β} {run' : Run σ} {ok : β → Run σ → Prop}
    {failed : Error → Run σ → Prop} (h : act run = act' run') :
    Ends act run ok failed ↔ Ends act' run' ok failed := by
  rw [Ends, h, Ends]

/-- An action ends where it ends. -/
theorem ends_self (act : CallM σ β) (run : Run σ) :
    Ends act run (fun value run' => act run = .ok value run')
      fun e run' => act run = .error e run' := by
  unfold Ends
  split
  · next heq => exact heq
  · next heq => exact heq

theorem Ends.exists_ok {ok : β → Run σ → Prop} (h : Ends act run ok fun _ _ => False) :
    ∃ value run', act run = .ok value run' ∧ ok value run' := by
  unfold Ends at h
  split at h
  · next value run' heq => exact ⟨value, run', heq, h⟩
  · exact h.elim

theorem Ends.mono {ok ok' : β → Run σ → Prop} {failed failed' : Error → Run σ → Prop}
    (h : Ends act run ok failed) (hok : ∀ value run', ok value run' → ok' value run')
    (hfailed : ∀ e run', failed e run' → failed' e run') : Ends act run ok' failed' := by
  unfold Ends at h ⊢
  split at h
  · exact hok _ _ h
  · exact hfailed _ _ h

theorem Ends.mono_ok {ok ok' : β → Run σ → Prop} {failed : Error → Run σ → Prop}
    (h : Ends act run ok failed) (hok : ∀ value run', ok value run' → ok' value run') :
    Ends act run ok' failed := h.mono hok fun _ _ h => h

theorem Ends.mono_failed {ok : β → Run σ → Prop} {failed failed' : Error → Run σ → Prop}
    (h : Ends act run ok failed) (hfailed : ∀ e run', failed e run' → failed' e run') :
    Ends act run ok failed' := h.mono (fun _ _ h => h) hfailed

theorem Ends.and {ok ok' : β → Run σ → Prop} {failed failed' : Error → Run σ → Prop}
    (h : Ends act run ok failed) (h' : Ends act run ok' failed') :
    Ends act run (fun value run' => ok value run' ∧ ok' value run')
      fun e run' => failed e run' ∧ failed' e run' := by
  unfold Ends at h h' ⊢
  cases hact : act run with
  | ok value run' =>
    rw [hact] at h h'
    exact ⟨h, h'⟩
  | error e run' =>
    rw [hact] at h h'
    exact ⟨h, h'⟩

/-! ### Rules of the monad -/

section

variable {ok : γ → Run σ → Prop} {failed : Error → Run σ → Prop}

@[simp] theorem ends_pure (value : γ) :
    Ends (pure value : CallM σ γ) run ok failed ↔ ok value run := Iff.rfl

@[simp] theorem ends_throw (e : Error) :
    Ends (throw e : CallM σ γ) run ok failed ↔ failed e run := Iff.rfl

@[simp] theorem ends_bind : Ends (act >>= f) run ok failed ↔
    Ends act run (fun value run' => Ends (f value) run' ok failed) failed := by
  unfold Ends
  simp only [bind, EStateM.bind]
  cases act run <;> rfl

@[simp] theorem ends_map {g : β → γ} : Ends (g <$> act) run ok failed ↔
    Ends act run (fun value => ok (g value)) failed := by
  unfold Ends
  simp only [Functor.map, EStateM.map]
  cases act run <;> rfl

/-- What is known of the first action is known where the second one starts. -/
theorem Ends.bind {mid : β → Run σ → Prop} (h : Ends act run mid failed)
    (hf : ∀ value run', mid value run' → Ends (f value) run' ok failed) :
    Ends (act >>= f) run ok failed :=
  ends_bind.mpr (h.mono_ok hf)

/-- Whatever the first action does, it is the second one that matters. -/
theorem Ends.after (hf : ∀ value run', Ends (f value) run' ok fun _ _ => True) :
    Ends (act >>= f) run ok fun _ _ => True := by
  refine ends_bind.mpr ?_
  unfold Ends at hf ⊢
  cases act run with
  | ok value run' => exact hf value run'
  | error e run' => trivial

end

/-! ### Rules of the small actions -/

@[simp] theorem ends_get {ok : Run σ → Run σ → Prop} {failed : Error → Run σ → Prop} :
    Ends (get : CallM σ (Run σ)) run ok failed ↔ ok run run := Iff.rfl

@[simp] theorem ends_modify {ok : Unit → Run σ → Prop} {failed : Error → Run σ → Prop}
    (g : Run σ → Run σ) : Ends (modify g : CallM σ Unit) run ok failed ↔ ok () (g run) := Iff.rfl

@[simp] theorem ends_record {ok : Unit → Run σ → Prop} {failed : Error → Run σ → Prop}
    (e : Event σ) : Ends (record e) run ok failed ↔
      ok () { run with journal := run.journal ++ [e] } := Iff.rfl

@[simp] theorem ends_perform {ok : β → Run σ → Prop} {failed : Error → Run σ → Prop}
    (act : StateM σ β) : Ends (perform act) run ok failed ↔
      ok (act run.world).1 { run with world := (act run.world).2 } := Iff.rfl

@[simp] theorem ends_request {ok : HttpRequest σ → Run σ → Prop}
    {failed : Error → Run σ → Prop} :
    Ends request run ok failed ↔ ok run.request run := Iff.rfl

@[simp] theorem ends_revise {ok : Unit → Run σ → Prop} {failed : Error → Run σ → Prop}
    (g : HttpRequest σ → HttpRequest σ) : Ends (revise g) run ok failed ↔
      ok () { run with request := g run.request } := Iff.rfl

@[simp] theorem ends_performOnRequest {ok : β → Run σ → Prop} {failed : Error → Run σ → Prop}
    (act : HttpRequest σ → StateM σ (β × HttpRequest σ)) :
    Ends (performOnRequest act) run ok failed ↔
      ok (act run.request run.world).1.1
        { run with
          world := (act run.request run.world).2
          request := (act run.request run.world).1.2 } := Iff.rfl

@[simp] theorem ends_count {ok : Unit → Run σ → Prop} {failed : Error → Run σ → Prop}
    (g : CallMetrics → CallMetrics) : Ends (count g) run ok failed ↔
      ok () { run with metrics := g run.metrics } := Iff.rfl

@[simp] theorem ends_countForClient {ok : Unit → Run σ → Prop} {failed : Error → Run σ → Prop}
    (s : CallSetting σ α) (g : ClientMetrics → ClientMetrics) :
    Ends (countForClient s g) run ok failed ↔
      ok () { run with client := { run.client with
        metrics := if s.client.config.metricsEnabled then g run.client.metrics
          else run.client.metrics } } := by
  unfold Ends countForClient
  by_cases hm : s.client.config.metricsEnabled = true
  · simp only [hm, if_true]
  · simp only [hm]
    rfl

theorem ends_ofExcept {ε : Type} {ok : β → Run σ → Prop} {failed : Error → Run σ → Prop}
    (name : ε → Error) (x : Except ε β) :
    Ends (ofExcept name x) run ok failed ↔
      match x with
      | .ok value => ok value run
      | .error e => failed (name e) run := by
  cases x <;> rfl

end ServiceCall.CallM
