import ServiceCall.Proofs.Call.Attempt

/-!
What a turn makes of the answer of the transport, and what there is to do for the next attempt
because of it.
-/

namespace ServiceCall

variable {σ α : Type}

namespace CallM

/-- What a turn may do after the answer of the transport. -/
def arriveEffects : List Effect :=
  answerEffects ++ [.metadata, .records .capacityReturned, .pool, .clockOffset,
    .request .timeOffset, .records .clockSkewed] ++ admitsEffects

/-- What a turn does not touch after the answer withstands every answer. -/
theorem answerInvariant_of_apart {s : CallSetting σ α} {watched : List Effect} {I : Run σ → Prop}
    (hI : DependsOn watched I) (hn : ∀ effect ∈ watched, effect ∉ arriveEffects) :
    AnswerInvariant s watched I fun _ => I := by
  have hquiet : ∀ effects ⊆ arriveEffects, ∀ effect ∈ watched, effect ∉ effects :=
    fun effects hs effect hw hm => hn effect hw (hs hm)
  exact {
    dependsOn := hI
    apart := hquiet _ (by decide)
    complete := fun status handled r _ h =>
      (complete_footprint s status handled r).keeps hI (hquiet _ (by decide)) h
    correctClock := fun headers e _ h =>
      (correctClock_footprint s headers e).keeps hI (hquiet _ (by decide)) h }

/-- What a turn does not touch after the answer still holds before the next one, whose directive
follows an attempt. -/
theorem arrive_keeps {s : CallSetting σ α} {o : Origin} {tally : Tally}
    {limit : Option Duration} {answer : Except TransportError HttpResponse} {run : Run σ}
    {watched : List Effect} {I : Run σ → Prop} (hI : DependsOn watched I)
    (hn : ∀ effect ∈ watched, effect ∉ arriveEffects) (h : I run) :
    Ends (arrive s o tally limit answer) run (Turn.Leaves s (fun _ => I) I) fun _ => I := by
  have hquiet : ∀ effects ⊆ arriveEffects, ∀ effect ∈ watched, effect ∉ effects :=
    fun effects hs effect hw hm => hn effect hw (hs hm)
  have hanswer : AnswerInvariant s watched I fun _ => I := answerInvariant_of_apart hI hn
  unfold arrive
  refine Ends.bind (ends_onFailure.mpr ((hanswer.answerRule.interpret h limit answer).mono_failed
      fun _ run' h => ?_)) fun outcome _ h => ?_
  · exact hI _ _ _ (hquiet _ (by decide)) (countFailedAttempt_frame run') h
  · refine conclude_ends hI (hquiet _ (by decide)) (fun failure number _ h => ?_) h
    exact (admits_footprint s o failure number).keeps hI (hquiet _ (by decide)) h

/-- What is not touched by the question whether to go on holds after a turn if it holds after its
answer has been interpreted. -/
theorem arrive_ends_of_interpret {s : CallSetting σ α} {o : Origin} {tally : Tally}
    {limit : Option Duration} {answer : Except TransportError HttpResponse} {run : Run σ}
    {watched : List Effect} {I : Run σ → Prop} {failed : Error → Run σ → Prop}
    (hI : DependsOn watched I) (hn : ∀ effect ∈ watched, effect ∉ admitsEffects)
    (hfailed : ∀ e run', I run' → failed e run')
    (hundo : ∀ e run', failed e run' → failed e (countFailedAttempt run'))
    (h : Ends (interpret s limit answer) run
      (fun (_ : Outcome σ α (decide (tally.authRetries < s.limits.authRetries))) => I) failed) :
    Ends (arrive s o tally limit answer) run (fun _ => I) failed := by
  have hquiet : ∀ effects ⊆ admitsEffects, ∀ effect ∈ watched,
      effect ∉ effects := fun effects hs effect hw hm => hn effect hw (hs hm)
  have hcount : ∀ (f : ClientMetrics → ClientMetrics) (run : Run σ), I run →
      Ends (countForClient s f) run (fun _ => I) failed := fun f run h =>
    ((Footprint.countForClient s f (List.mem_singleton.mpr rfl)).keeps hI
      (hquiet _ (by decide)) h).mono_failed hfailed
  unfold arrive
  refine Ends.bind (ends_onFailure.mpr (h.mono_failed hundo)) fun outcome _ h => ?_
  unfold conclude
  cases outcome with
  | success response => exact h
  | redirect target =>
    dsimp only
    split
    · exact (hcount _ _ h).bind fun _ _ h => h
    · exact hfailed _ _ h
  | authRetry parameters allowed => exact h
  | retryable failure =>
    refine ((countException_footprint.keeps hI (hquiet _ (by decide)) h).mono_failed
        hfailed).bind fun _ _ h => ?_
    split
    · refine (((admits_footprint s o failure _).keeps hI (hquiet _ (by decide)) h).mono_failed
          hfailed).bind fun admitted _ h => ?_
      split
      · exact (hcount _ _ h).bind fun _ _ h => h
      · exact hfailed _ _ h
    · exact hfailed _ _ h

/-! ### What an answer leads to -/

/-- The answer sends the request on to this target. -/
def RedirectsTo (answer : Except TransportError HttpResponse) (r : HttpRequest σ) (target : Uri) :
    Prop :=
  ∃ response location, answer = .ok response ∧ location? response = some location ∧
    r.fullUri.toOption.bind (Address.resolve? · location) = some target

/-- What led to the directive: a retry was admitted, the answer said where to go, or an
authentication retry was granted. -/
def Causes (s : CallSetting σ α) (answer : Except TransportError HttpResponse)
    (r : HttpRequest σ) (since : Journal σ) : Directive σ → Prop
  | .start => False
  | .retry failure => ∃ failed, failed.error = failure ∧ .conditionAsked failed true ∈ since
  | .redirect target => RedirectsTo answer r target
  | .authRetry parameters => Granted s parameters ∧ ∃ e, .authAsked e true ∈ since

theorem Causes.append {s : CallSetting σ α} {answer : Except TransportError HttpResponse}
    {r : HttpRequest σ} {since : Journal σ} {directive : Directive σ}
    (h : Causes s answer r since directive) (new : Journal σ) :
    Causes s answer r (since ++ new) directive := by
  cases directive with
  | start => exact h
  | retry failure =>
    obtain ⟨failed, herror, hmem⟩ := h
    exact ⟨failed, herror, List.mem_append_left _ hmem⟩
  | redirect target => exact h
  | authRetry parameters =>
    obtain ⟨hgranted, e, hmem⟩ := h
    exact ⟨hgranted, e, List.mem_append_left _ hmem⟩

/-- What has happened since, which is nothing that belongs to another attempt. -/
def Follows (j : Journal σ) (P : Journal σ → Prop) (run : Run σ) : Prop :=
  ∃ since, run.journal = j ++ since ∧
    (∀ e ∈ since, e.kind ≠ .attemptStarted ∧ e.kind ≠ .dispatched) ∧ P since

theorem Follows.mono {j : Journal σ} {P Q : Journal σ → Prop} {run : Run σ} (h : Follows j P run)
    (hPQ : ∀ since, P since → Q since) : Follows j Q run := by
  obtain ⟨since, hj, hkind, hP⟩ := h
  exact ⟨since, hj, hkind, hPQ since hP⟩

theorem Follows.append {j new : Journal σ} {P Q : Journal σ → Prop} {run run' : Run σ}
    (h : Follows j P run) (hj : run'.journal = run.journal ++ new)
    (hn : ∀ e ∈ new, e.kind ≠ .attemptStarted ∧ e.kind ≠ .dispatched)
    (hPQ : ∀ since, P since → Q (since ++ new)) : Follows j Q run' := by
  obtain ⟨since, hsince, hkind, hP⟩ := h
  refine ⟨since ++ new, by rw [hj, hsince, List.append_assoc], fun e he => ?_, hPQ since hP⟩
  rcases List.mem_append.mp he with he | he
  · exact hkind e he
  · exact hn e he

theorem follows_dependsOn (j : Journal σ) :
    DependsOn [.records .attemptStarted, .records .dispatched] (Follows j fun _ => True) := by
  intro effects run run' hn hf h
  obtain ⟨new, hnew, hk⟩ := hf.journal
  apply h.append hnew _ fun _ _ => trivial
  exact fun e he => ⟨fun heq => hn _ (.head _) (heq ▸ hk e he),
    fun heq => hn _ (.tail _ (.head _)) (heq ▸ hk e he)⟩

variable {s : CallSetting σ α} {authAllowed : Bool} {run : Run σ}

end CallM

end ServiceCall
