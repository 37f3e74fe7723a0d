import ServiceCall.Proofs.Call.Exchange

/-!
Invariants of the attempts. What withstands whatever answer comes, and does not depend on the
preparations of an attempt, holds wherever the attempts end.
-/

namespace ServiceCall

variable {σ α : Type}

namespace CallM

variable {s : CallSetting σ α} {failed : Error → Run σ → Prop}

/-- What is left after a turn has to be enough for the next one. -/
theorem turns_of_turn {o : Origin} {I : Directive σ → Run σ → Prop} {J : Run σ → Prop}
    {done : Response α → Run σ → Prop}
    (hturn : ∀ tally directive run, I directive run →
      Ends (turn s o tally directive) run (Turn.Leaves s done J) failed)
    (hnext : ∀ directive run, directive.Follows s → J run → I directive run)
    (tally : Tally) (directive : Directive σ) (run : Run σ) (h : I directive run) :
    Ends (turns s o tally directive) run done failed := by
  refine turns_ends (I := fun _ => I) (fun tally directive run h => ?_) _ _ run h
  refine (hturn tally directive run h).mono (fun t run' hleft => ?_) fun _ _ h => h
  cases t with
  | finished response => exact hleft
  | again tally' directive' less => exact hnext directive' run' hleft.1 hleft.2

end CallM

/-- What a turn does apart from signing, from its exchange, and from the question whether to
retry. -/
def turnEffects : List Effect :=
  CallM.approachEffects ++ CallM.stampEffects ++ CallM.prepareEffects ++
    [.binding, .records .signerAsked, .records .signerBound, .records .attemptStarted, .metrics,
      .clientMetrics]

/-- `I` withstands whatever a turn does, and turns into `done` by a success. -/
structure AttemptInvariant (s : CallSetting σ α) (watched : List Effect) (I : Run σ → Prop)
    (done : Response α → Run σ → Prop) : Prop extends AnswerInvariant s watched I done where
  quiet : ∀ effect ∈ watched, effect ∉ turnEffects
  sign : ∀ signer credentials run, I run →
    CallM.Ends (CallM.sign signer credentials) run (fun _ => I) fun _ => I
  dispatch : ∀ limit run, I run →
    CallM.Ends (CallM.dispatch s limit) run (fun _ => I) fun _ => I
  admits : ∀ o failure number run, I run →
    CallM.Ends (CallM.admits s o failure number) run (fun _ => I) fun _ => I

namespace AttemptInvariant

open CallM

variable {s : CallSetting σ α} {watched effects : List Effect} {I : Run σ → Prop}
  {done : Response α → Run σ → Prop} {run : Run σ}

theorem keeps {β : Type} {act : CallM σ β} (hI : AttemptInvariant s watched I done)
    (hact : Footprint effects act) (hs : effects ⊆ turnEffects) (h : I run) :
    Ends act run (fun _ => I) fun _ => I :=
  hact.keeps hI.dependsOn (fun effect hw hm => hI.quiet effect hw (hs hm)) h

variable (hI : AttemptInvariant s watched I done)

include hI

theorem signWith (h : I run) (signer : Option (Signer σ)) (credentials : Option Credentials) :
    Ends (signWith signer credentials) run (fun _ => I) fun _ => I := by
  unfold CallM.signWith
  split
  · exact hI.sign _ _ _ h
  · exact h

theorem attempt {authAllowed : Bool} (h : I run) (directive : Directive σ) (number : Nat) :
    Ends (attempt s directive number : CallM σ (Outcome σ α authAllowed)) run
      (Outcome.Leaves s done I) fun _ => I := by
  unfold CallM.attempt
  refine (hI.keeps (approach_footprint s directive number) (by decide) h).bind
    fun credentials _ h => ?_
  refine (hI.keeps (stampRetryHeader_footprint number) (by decide) h).bind fun _ _ h => ?_
  refine (hI.keeps (bindSigner_footprint s directive) (by decide) h).bind fun signer _ h => ?_
  refine (hI.signWith h signer credentials).bind fun _ _ h => ?_
  exact hI.exchange hI.dependsOn hI.apart hI.dispatch (fun _ _ _ h => h) (fun _ _ h => h) h

theorem turn (h : I run) (o : Origin) (tally : Tally) (directive : Directive σ) :
    Ends (turn s o tally directive) run (Turn.Leaves s done I) fun _ => I := by
  have hcounted : ∀ effect ∈ watched, effect ∉ [Effect.metrics, .clientMetrics] :=
    fun effect hw hm =>
      hI.quiet effect hw ((by decide : [Effect.metrics, .clientMetrics] ⊆ turnEffects) hm)
  unfold CallM.turn
  refine (hI.keeps (checkInterruption_footprint s) (by decide) h).bind fun _ _ h => ?_
  refine (hI.keeps (startAttempt_footprint s directive _) (by decide) h).bind fun _ _ h => ?_
  refine (hI.keeps (prepare_footprint o directive) (by decide) h).bind fun _ _ h => ?_
  refine Ends.bind (ends_onFailure.mpr ((hI.attempt h directive _).mono (fun _ _ h => h) ?_))
    fun outcome _ h => ?_
  · intro e run h
    exact hI.dependsOn _ _ _ hcounted ((countFailedAttempt_frame run).mono (by decide)) h
  · exact conclude_ends hI.dependsOn hcounted (hI.admits o) h

theorem attempts (h : I run) : Ends (attempts s) run done fun _ => I := by
  have hturns : ∀ (o : Origin) (run : Run σ), I run →
      Ends (turns s o {} .start) run done fun _ => I := fun o run h =>
    turns_of_turn (I := fun _ => I) (fun tally directive run h => hI.turn h o tally directive)
      (fun _ _ _ h => h) _ _ run h
  unfold CallM.attempts
  refine ends_bind.mpr ?_
  rw [ends_request]
  dsimp only
  split
  · exact hturns _ _ h
  · exact (hI.keeps markBody_footprint (by decide) h).bind fun _ _ h => hturns _ _ h

end AttemptInvariant

end ServiceCall
