import ServiceCall.Proofs.Attempts.Stream
import ServiceCall.Proofs.Call.Answer

/-!
The way of a call. A redirect and an authentication retry say where the next attempt goes: the
endpoint and the path stay for all attempts that follow, the target of a redirect is the address
of one attempt only.
-/

namespace ServiceCall

variable {σ α : Type}

/-! ### Places -/

/-- Where a request goes. -/
structure Place where
  endpoint : Uri
  path : String
  /-- The whole address, if it is not made of endpoint, path and parameters. -/
  target : Option Uri

namespace Place

def of (r : HttpRequest σ) : Place := ⟨r.endpoint, r.path, r.redirectTarget⟩

/-- Where the next attempt goes. Nobody goes to a target without scheme and authority. -/
def follow? (p : Place) : Directive σ → Option Place
  | .start => some p
  | .retry _ => some { p with target := none }
  | .redirect target => target.root?.map fun endpoint => ⟨endpoint, target.path, some target⟩
  | .authRetry parameters =>
    some { p with endpoint := parameters.endpoint.getD p.endpoint, target := none }

/-- The address of a request that goes there with the parameters of the other one. -/
def uri (p : Place) (o : HttpRequest σ) : Except Error Uri :=
  match p.target with
  | some target => .ok target
  | none =>
    HttpRequest.fullUri { o with endpoint := p.endpoint, path := p.path, redirectTarget := none }

end Place

namespace Journal

variable {j new : Journal σ} {o : HttpRequest σ}

/-- What the attempts had to do, from the first one on. -/
def directives (j : Journal σ) : List (Directive σ) :=
  j.filterMap fun
    | .attemptStarted _ directive => some directive
    | _ => none

/-- Where the attempt under way goes, if it goes anywhere. -/
def place? (o : HttpRequest σ) (j : Journal σ) : Option Place :=
  j.directives.foldlM Place.follow? (Place.of o)

theorem directives_append (hn : ∀ e ∈ new, e.kind ≠ .attemptStarted) :
    (j ++ new).directives = j.directives := by
  have hnone : new.directives = [] := by
    refine List.filterMap_eq_nil_iff.mpr fun e he => ?_
    cases e <;> first | rfl | exact absurd rfl (hn _ he)
  rw [directives, List.filterMap_append, ← directives, ← directives, hnone, List.append_nil]

theorem place?_append (hn : ∀ e ∈ new, e.kind ≠ .attemptStarted) :
    (j ++ new).place? o = j.place? o := by
  rw [place?, directives_append hn, place?]

/-- What led to the directive of the attempt that is about to start. The first one starts anew;
every other one has to do what came of the request that was sent last. -/
inductive Prompts (s : CallSetting σ α) (before : Journal σ) : Directive σ → Prop where
  | start (first : before.directives = []) : Prompts s before .start
  | again {directive : Directive σ} (earlier since : Journal σ) (r : HttpRequest σ)
    (limit : Option Duration) (inFlight : Nat) (world : σ)
    (sent : before = earlier ++ .dispatched r limit inFlight :: since)
    (quiet : ∀ e ∈ since, e.kind ≠ .attemptStarted ∧ e.kind ≠ .dispatched)
    (causes : CallM.Causes s (s.client.transport.send r limit world).1.1
      (s.client.transport.send r limit world).1.2 since directive) :
    Prompts s before directive

theorem Prompts.append {s : CallSetting σ α} {directive : Directive σ} (h : j.Prompts s directive)
    (hn : ∀ e ∈ new, e.kind ≠ .attemptStarted ∧ e.kind ≠ .dispatched) :
    (j ++ new).Prompts s directive := by
  cases h with
  | start first =>
    apply Prompts.start
    rw [directives_append fun e he => (hn e he).1, first]
  | again earlier since r limit inFlight world sent quiet causes =>
    refine .again earlier (since ++ new) r limit inFlight world ?_ (fun e he => ?_)
      (causes.append new)
    · rw [sent, List.append_assoc, List.cons_append]
    · rcases List.mem_append.mp he with he | he
      · exact quiet e he
      · exact hn e he

theorem Prompts.first {s : CallSetting σ α} (h : j.Prompts s .start) : j.directives = [] := by
  cases h with
  | start first => exact first
  | again earlier since r limit inFlight world sent quiet causes => exact causes.elim

theorem Prompts.granted {s : CallSetting σ α} {parameters : AuthRetry σ}
    (h : j.Prompts s (.authRetry parameters)) : Granted s parameters := by
  cases h with
  | again earlier since r limit inFlight world sent quiet causes => exact causes.1

/-- The request goes to this place, with the parameters with which the attempts began. -/
structure GoesTo (o : HttpRequest σ) (p : Place) (r : HttpRequest σ) : Prop where
  endpoint : r.endpoint = p.endpoint
  path : r.path = p.path
  uri : r.fullUri = p.uri o

/-- Every signer is handed a request that goes where the directives so far lead, and every
transport what a signer has left of one. -/
def KeepsWay (s : CallSetting σ α) (o : HttpRequest σ) (before : Journal σ) : Event σ → Prop
  | .attemptStarted _ directive => before.Prompts s directive
  | .signing _ _ r => ∃ p, before.place? o = some p ∧ GoesTo o p r
  | .dispatched r _ _ => ∃ p, before.place? o = some p ∧ before.Sends (GoesTo o p) r
  | _ => True

def wayKinds : List EventKind := [.attemptStarted, .signing, .dispatched]

theorem keepsWay_of_kind {s : CallSetting σ α} (before : Journal σ) (e : Event σ)
    (h : e.kind ∉ wayKinds) : before.KeepsWay s o e := by
  cases e <;> first | trivial | exact absurd (by simp [Event.kind, wayKinds]) h

end Journal

/-! ### An attempt -/

/-- What is done to the request leaves it where it is. -/
structure HttpRequest.Stays (r r' : HttpRequest σ) : Prop where
  endpoint : r'.endpoint = r.endpoint
  path : r'.path = r.path

/-- Where a call is: how its request stands to the place where the attempt goes. -/
structure EnRoute (s : CallSetting σ α) (o : HttpRequest σ)
    (P : Option Place → HttpRequest σ → Prop) (run : Run σ) : Prop where
  request : P (run.journal.place? o) run.request
  signer : ∀ signer, run.binding.signer? = some signer → signer.Touches HttpRequest.Stays
  obeys : run.journal.Obeys (Journal.KeepsWay s o)

/-- The request is at its place, but perhaps not its target. -/
def Located (place : Option Place) (r : HttpRequest σ) : Prop :=
  ∃ target, place = some ⟨r.endpoint, r.path, target⟩

theorem Located.stays {r r' : HttpRequest σ} {place : Option Place} (h : Located place r)
    (hs : r.Stays r') : Located place r' := by
  obtain ⟨target, rfl⟩ := h
  exact ⟨target, by rw [hs.endpoint, hs.path]⟩

section

variable {s : CallSetting σ α} {o : HttpRequest σ} {P : Option Place → HttpRequest σ → Prop}
  {run run' : Run σ}

theorem EnRoute.mono {Q : Option Place → HttpRequest σ → Prop} (h : EnRoute s o P run)
    (hPQ : ∀ place r, P place r → Q place r) : EnRoute s o Q run :=
  ⟨hPQ _ _ h.request, h.signer, h.obeys⟩

/-- A change of the request alone. -/
theorem EnRoute.revise {Q : Option Place → HttpRequest σ → Prop} (h : EnRoute s o P run)
    {r : HttpRequest σ} (hr : Q (run.journal.place? o) r) :
    EnRoute s o Q { run with request := r } :=
  ⟨hr, h.signer, h.obeys⟩

/-- Events that are neither starts nor signatures nor dispatches lead nowhere. -/
theorem EnRoute.append {Q : Option Place → HttpRequest σ → Prop} (h : EnRoute s o P run)
    {new : Journal σ} (hn : ∀ e ∈ new, e.kind ∉ Journal.wayKinds)
    (hj : run'.journal = run.journal ++ new) (hrequest : Q (run.journal.place? o) run'.request)
    (hsigner : ∀ signer, run'.binding.signer? = some signer → signer.Touches HttpRequest.Stays) :
    EnRoute s o Q run' := by
  have hplace : run'.journal.place? o = run.journal.place? o := by
    rw [hj]
    apply Journal.place?_append
    exact fun e he hkind => hn e he (by simp [hkind, Journal.wayKinds])
  refine ⟨hplace ▸ hrequest, hsigner, ?_⟩
  rw [hj]
  exact h.obeys.append_of_free fun e he before => Journal.keepsWay_of_kind before e (hn e he)

theorem enRoute_dependsOn (parts : List RequestPart)
    (hP : ∀ place r r', (∀ part ∈ parts, part.Spares r r') → P place r → P place r') :
    DependsOn (parts.map Effect.request ++ attemptEffects) (EnRoute s o P) := by
  intro effects run run' hn hf h
  obtain ⟨new, hnew, hk⟩ := hf.journal
  have hquiet : ∀ kind ∈ Journal.wayKinds, .records kind ∈ attemptEffects := by decide
  refine h.append (fun e he hkind => ?_) hnew ?_ ?_
  · exact hn _ (List.mem_append_right _ (hquiet _ hkind)) (hk e he)
  · apply hP _ _ _ _ h.request
    exact fun part hpart => hf.part (hn _ (List.mem_append_left _ (List.mem_map_of_mem hpart)))
  · rw [hf.binding (hn _ (List.mem_append_right _ (by decide)))]
    exact h.signer

theorem enRoute_dependsOn_request :
    DependsOn (anyRequest ++ attemptEffects) (EnRoute s o P) :=
  enRoute_dependsOn RequestPart.all fun _ r r' hs h => by rwa [RequestPart.eq_of_spares hs]

end

namespace CallM

variable {s : CallSetting σ α} {o : HttpRequest σ} {origin : Origin} {directive : Directive σ}
  {P : Option Place → HttpRequest σ → Prop} {run : Run σ} {effects : List Effect}

/-- An action that leaves the request alone does not lead anywhere. -/
theorem Footprint.rests {β : Type} {act : CallM σ β} (hact : Footprint effects act)
    (hn : ∀ effect ∈ anyRequest ++ attemptEffects, effect ∉ effects) (h : EnRoute s o P run) :
    Ends act run (fun _ => EnRoute s o P)
      fun _ run' => run'.journal.Obeys (Journal.KeepsWay s o) :=
  (hact.keeps enRoute_dependsOn_request hn h).mono_failed fun _ _ h => h.obeys

end CallM

namespace CallM

variable {s : CallSetting σ α} {o : HttpRequest σ} {origin : Origin} {directive : Directive σ}
  {run : Run σ}

end CallM

/-! ### Every step -/

namespace CallM

variable {s : CallSetting σ α} {o : HttpRequest σ} {origin : Origin} {tally : Tally}
  {directive : Directive σ} {run : Run σ}

end CallM

namespace Rehearsal

end Rehearsal

end ServiceCall
