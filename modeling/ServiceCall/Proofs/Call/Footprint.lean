import Mathlib.Data.List.Basic
import ServiceCall.Proofs.Call.Ending

/-!
Footprints: what an action of a call may change, which events it may record and with which
failures it may end. Everything else is as it was.
-/

namespace ServiceCall

/-- Events without what they tell. -/
inductive EventKind where
  | milestone | hook | clockRead | cancelRead | attemptStarted | credentialsAsked | backoffAsked
  | paused | signerAsked | signerBound | signing | dispatched | answered | handled
  | clockSkewed | authAsked | capacityTaken | capacityRefused | capacityReturned
  | conditionAsked
  deriving DecidableEq

namespace Event

variable {σ : Type}

def kind : Event σ → EventKind
  | .milestone _ => .milestone
  | .hook .. => .hook
  | .clockRead _ => .clockRead
  | .cancelRead _ => .cancelRead
  | .attemptStarted .. => .attemptStarted
  | .credentialsAsked => .credentialsAsked
  | .backoffAsked .. => .backoffAsked
  | .paused .. => .paused
  | .signerAsked _ => .signerAsked
  | .signerBound _ => .signerBound
  | .signing .. => .signing
  | .dispatched .. => .dispatched
  | .answered _ => .answered
  | .handled _ => .handled
  | .clockSkewed .. => .clockSkewed
  | .authAsked .. => .authAsked
  | .capacityTaken _ => .capacityTaken
  | .capacityRefused _ => .capacityRefused
  | .capacityReturned _ => .capacityReturned
  | .conditionAsked .. => .conditionAsked

end Event

inductive RequestPart where
  | subject | method | endpoint | path | headers | parameters | body | timeOffset | notes
  | redirectTarget
  deriving DecidableEq

namespace RequestPart

variable {σ : Type}

def all : List RequestPart :=
  [.subject, .method, .endpoint, .path, .headers, .parameters, .body, .timeOffset, .notes,
    .redirectTarget]

theorem mem_all (part : RequestPart) : part ∈ all := by
  cases part <;> decide

/-- The part is the same in both requests. -/
def Spares (r r' : HttpRequest σ) : RequestPart → Prop
  | .subject => r'.subject = r.subject
  | .method => r'.method = r.method
  | .endpoint => r'.endpoint = r.endpoint
  | .path => r'.path = r.path
  | .headers => r'.headers = r.headers
  | .parameters => r'.parameters = r.parameters
  | .body => r'.body = r.body
  | .timeOffset => r'.timeOffset = r.timeOffset
  | .notes => r'.notes = r.notes
  | .redirectTarget => r'.redirectTarget = r.redirectTarget

theorem spares_refl (part : RequestPart) (r : HttpRequest σ) : part.Spares r r := by
  cases part <;> rfl

theorem Spares.trans {part : RequestPart} {r r' r'' : HttpRequest σ} (h : part.Spares r r')
    (h' : part.Spares r' r'') : part.Spares r r'' := by
  cases part <;> exact Eq.trans h' h

/-- The parts make up the request. -/
theorem eq_of_spares {r r' : HttpRequest σ} (h : ∀ part ∈ all, part.Spares r r') : r' = r := by
  have hparts := fun part => h part (mem_all part)
  cases r
  cases r'
  congr 1
  · exact hparts .subject
  · exact hparts .method
  · exact hparts .endpoint
  · exact hparts .path
  · exact hparts .headers
  · exact hparts .parameters
  · exact hparts .body
  · exact hparts .timeOffset
  · exact hparts .notes
  · exact hparts .redirectTarget

end RequestPart

/-- Something that an action may do. That collaborators act is not counted. -/
inductive Effect where
  | request (part : RequestPart)
  | metrics | clientMetrics | pool | tookCapacity | clockOffset | metadata | binding | lastBackoff
  | records (kind : EventKind)
  | fails (code : ErrorCode)
  deriving DecidableEq

/-- Collaborators that are handed the request may change any part of it. -/
def anyRequest : List Effect := RequestPart.all.map Effect.request

theorem request_mem_anyRequest (part : RequestPart) : .request part ∈ anyRequest :=
  List.mem_map_of_mem (RequestPart.mem_all part)

namespace Effect

variable {σ : Type}

/-- The part of a run that the effect would change is the same in both runs. -/
def Spares (run run' : Run σ) : Effect → Prop
  | .request part => part.Spares run.request run'.request
  | .metrics => run'.metrics = run.metrics
  | .clientMetrics => run'.client.metrics = run.client.metrics
  | .pool => run'.client.pool = run.client.pool
  | .tookCapacity => run'.tookCapacity = run.tookCapacity
  | .clockOffset => run'.client.clockOffset = run.client.clockOffset
  | .metadata => run'.client.metadata = run.client.metadata
  | .binding => run'.binding = run.binding
  | .lastBackoff => run'.lastBackoff = run.lastBackoff
  | .records _ => True
  | .fails _ => True

theorem spares_refl (effect : Effect) (run : Run σ) : effect.Spares run run := by
  cases effect <;> first | exact RequestPart.spares_refl _ _ | rfl | trivial

theorem Spares.trans {effect : Effect} {run run' run'' : Run σ} (h : effect.Spares run run')
    (h' : effect.Spares run' run'') : effect.Spares run run'' := by
  cases effect <;> first | exact RequestPart.Spares.trans h h' | exact Eq.trans h' h | trivial

end Effect

/-- The second run comes from the first one by no more than the effects in the list. -/
structure Frame {σ : Type} (effects : List Effect) (run run' : Run σ) : Prop where
  spares : ∀ effect ∉ effects, effect.Spares run run'
  journal : ∃ new, run'.journal = run.journal ++ new ∧ ∀ e ∈ new, .records e.kind ∈ effects

namespace Frame

variable {σ : Type} {effects effects' : List Effect} {run run' run'' : Run σ}

theorem of_journal_eq (hj : run'.journal = run.journal)
    (hs : ∀ effect ∉ effects, effect.Spares run run') : Frame effects run run' :=
  ⟨hs, [], by rw [hj, List.append_nil], by simp⟩

theorem refl (effects : List Effect) (run : Run σ) : Frame effects run run :=
  of_journal_eq rfl fun effect _ => effect.spares_refl run

theorem trans (h : Frame effects run run') (h' : Frame effects run' run'') :
    Frame effects run run'' := by
  refine ⟨fun effect hn => (h.spares effect hn).trans (h'.spares effect hn), ?_⟩
  obtain ⟨new, hnew, hk⟩ := h.journal
  obtain ⟨new', hnew', hk'⟩ := h'.journal
  refine ⟨new ++ new', by rw [hnew', hnew, List.append_assoc], ?_⟩
  intro e he
  rcases List.mem_append.mp he with he | he
  · exact hk e he
  · exact hk' e he

theorem mono (h : Frame effects run run') (hs : effects ⊆ effects') :
    Frame effects' run run' := by
  refine ⟨fun effect hn => h.spares effect fun hm => hn (hs hm), ?_⟩
  obtain ⟨new, hnew, hk⟩ := h.journal
  exact ⟨new, hnew, fun e he => hs (hk e he)⟩

theorem part (h : Frame effects run run') {part : RequestPart} (hn : .request part ∉ effects) :
    part.Spares run.request run'.request := h.spares _ hn

theorem pool (h : Frame effects run run') (hn : .pool ∉ effects) :
    run'.client.pool = run.client.pool := h.spares _ hn

theorem tookCapacity (h : Frame effects run run') (hn : .tookCapacity ∉ effects) :
    run'.tookCapacity = run.tookCapacity := h.spares _ hn

theorem clockOffset (h : Frame effects run run') (hn : .clockOffset ∉ effects) :
    run'.client.clockOffset = run.client.clockOffset := h.spares _ hn

theorem binding (h : Frame effects run run') (hn : .binding ∉ effects) :
    run'.binding = run.binding := h.spares _ hn

/-- What records no events leaves the journal as it is. -/
theorem journal_eq (h : Frame effects run run') (hn : ∀ kind, .records kind ∉ effects) :
    run'.journal = run.journal := by
  obtain ⟨new, hnew, hk⟩ := h.journal
  cases new with
  | nil => rw [hnew, List.append_nil]
  | cons e new => exact absurd (hk e (.head _)) (hn e.kind)

end Frame

namespace CallM

variable {σ α β γ : Type} {effects effects' : List Effect}

/-- From every run the action does no more than the effects in the list. -/
structure Footprint (effects : List Effect) (act : CallM σ β) : Prop where
  ends : ∀ run, Ends act run (fun _ => Frame effects run)
    fun e run' => Frame effects run run' ∧ .fails e.code ∈ effects

namespace Footprint

variable {act : CallM σ β} {f : β → CallM σ γ}

theorem mono (h : Footprint effects act) (hs : effects ⊆ effects') : Footprint effects' act :=
  ⟨fun run => (h.ends run).mono (fun _ _ h => h.mono hs) fun _ _ h => ⟨h.1.mono hs, hs h.2⟩⟩

theorem pure (value : β) : Footprint effects (Pure.pure value : CallM σ β) :=
  ⟨fun run => Frame.refl effects run⟩

theorem throw {e : Error} (code : ErrorCode) (hc : e.code = code)
    (h : .fails code ∈ effects) : Footprint effects (MonadExcept.throw e : CallM σ β) :=
  ⟨fun run => ⟨Frame.refl effects run, hc ▸ h⟩⟩

theorem bind (h : Footprint effects act) (hf : ∀ value, Footprint effects (f value)) :
    Footprint effects (act >>= f) := by
  refine ⟨fun run => ends_bind.mpr ((h.ends run).mono ?_ fun _ _ h => h)⟩
  intro value run' h
  exact ((hf value).ends run').mono (fun _ _ h' => h.trans h') fun _ _ h' => ⟨h.trans h'.1, h'.2⟩

theorem ite {c : Prop} [Decidable c] {act act' : CallM σ β} (h : Footprint effects act)
    (h' : Footprint effects act') : Footprint effects (if c then act else act') := by
  split
  · exact h
  · exact h'

/-! ### The small actions -/

theorem get : Footprint effects (MonadState.get : CallM σ (Run σ)) :=
  ⟨fun run => Frame.refl effects run⟩

theorem request : Footprint effects (CallM.request : CallM σ (HttpRequest σ)) :=
  ⟨fun run => Frame.refl effects run⟩

theorem record {e : Event σ} (kind : EventKind) (hk : e.kind = kind)
    (h : .records kind ∈ effects) : Footprint effects (CallM.record e) :=
  ⟨fun _ => ⟨fun effect _ => effect.spares_refl _, [e], rfl, by simpa [hk] using h⟩⟩

theorem perform (act : StateM σ β) : Footprint effects (CallM.perform act) :=
  ⟨fun _ => Frame.of_journal_eq rfl fun effect _ => effect.spares_refl _⟩

theorem count (f : CallMetrics → CallMetrics) (h : .metrics ∈ effects) :
    Footprint effects (CallM.count f : CallM σ Unit) := by
  refine ⟨fun _ => Frame.of_journal_eq rfl fun effect hn => ?_⟩
  cases effect <;> first | exact RequestPart.spares_refl _ _ | rfl | contradiction | trivial

theorem countForClient (s : CallSetting σ α) (f : ClientMetrics → ClientMetrics)
    (h : .clientMetrics ∈ effects) : Footprint effects (CallM.countForClient s f) := by
  refine ⟨fun run => ?_⟩
  by_cases hm : s.client.config.metricsEnabled
  · simp only [Ends, CallM.countForClient, hm, if_true]
    refine .of_journal_eq rfl fun effect hn => ?_
    cases effect <;> first | exact RequestPart.spares_refl _ _ | rfl | contradiction | trivial
  · simp only [Ends, CallM.countForClient, hm]
    exact Frame.refl effects run

theorem revise (f : HttpRequest σ → HttpRequest σ)
    (h : ∀ r part, .request part ∉ effects → part.Spares r (f r)) :
    Footprint effects (CallM.revise f) := by
  refine ⟨fun run => Frame.of_journal_eq rfl fun effect hn => ?_⟩
  cases effect <;> first | exact h run.request _ hn | rfl | trivial

theorem performOnRequest (act : HttpRequest σ → StateM σ (β × HttpRequest σ))
    (h : anyRequest ⊆ effects) : Footprint effects (CallM.performOnRequest act) := by
  refine ⟨fun run => Frame.of_journal_eq rfl fun effect hn => ?_⟩
  cases effect <;>
    first | exact absurd (h (request_mem_anyRequest _)) hn | rfl | trivial

theorem update {f : Run σ → Run σ} (h : ∀ run, Frame effects run (f run)) :
    Footprint effects (modify f : CallM σ Unit) := ⟨h⟩

theorem ofExcept {ε : Type} {name : ε → Error} {x : Except ε β} (code : ErrorCode)
    (hc : ∀ e, (name e).code = code) (h : .fails code ∈ effects) :
    Footprint effects (CallM.ofExcept name x : CallM σ β) := by
  refine ⟨fun run => ?_⟩
  cases x with
  | ok value => exact Frame.refl effects run
  | error e => exact ⟨Frame.refl effects run, hc e ▸ h⟩

end Footprint

end CallM

end ServiceCall
