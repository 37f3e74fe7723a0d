import ServiceCall.Proofs.Attempts.Stages
import ServiceCall.Proofs.Call.Attempt
import ServiceCall.Proofs.Hooks.Pipeline
import ServiceCall.Proofs.Metadata.Queue
import ServiceCall.Rehearsal.Client

/-!
What a client remembers of its calls. A call that succeeds tells the metadata of its response under
the root of its request, and no other call tells anything; so the memory is the queue of what the
calls have told.
-/

namespace ServiceCall

variable {σ α : Type}

/-! ### What calls tell -/

/-- What a call tells that comes to the result with a request of the root. -/
def noticesOf (result : Except Error (Response α)) (root : RootKey) : List Notice :=
  match result with
  | .ok response => (response.metadata.map fun m => (root, m)).toList
  | .error _ => []

def CallReport.told (report : CallReport σ α) : List Notice :=
  noticesOf report.result report.request.subject.root

/-! ### The root of a request -/

/-- Both are copies of one request. -/
def HttpRequest.SameRoot (r r' : HttpRequest σ) : Prop := r'.subject.root = r.subject.root

/-- Whatever the hook does to a request before it is sent is allowed. -/
def Hook.Touches (touch : HttpRequest σ → HttpRequest σ → Prop) (hook : Hook σ) : Prop :=
  ∀ r world, touch r (hook.beforeSend r world).1

/-- Nobody who has been handed the request has given it another root. -/
structure LeavesRoot (c : Client σ) (context : CallContext σ) (j : Journal σ) : Prop where
  hooks : ∀ hook ∈ context.hooks, hook.Touches HttpRequest.SameRoot
  signers : ∀ signer offset r, .signing signer offset r ∈ j → signer.Touches HttpRequest.SameRoot
  transport : c.transport.Touches HttpRequest.SameRoot

theorem LeavesRoot.of_append {c : Client σ} {context : CallContext σ} {j new : Journal σ}
    (h : LeavesRoot c context (j ++ new)) : LeavesRoot c context j where
  hooks := h.hooks
  signers signer offset r hm := h.signers signer offset r (List.mem_append_left _ hm)
  transport := h.transport

theorem Hook.beforeSendAll_sameRoot {hooks : List (Hook σ)}
    (h : ∀ hook ∈ hooks, hook.Touches HttpRequest.SameRoot) (r : HttpRequest σ) (world : σ) :
    r.SameRoot (beforeSendAll hooks r world).1 := by
  induction hooks generalizing r world with
  | nil => exact Eq.refl r.subject.root
  | cons hook hooks ih =>
    have hfirst := h hook (.head _) r world
    have hrest := ih (fun hook hm => h hook (.tail _ hm)) (hook.beforeSend r world).1
      (hook.beforeSend r world).2
    exact Eq.trans hrest hfirst

/-! ### A call -/

/-- The memory knows what has been told besides what it knew, and the request still has its root. -/
structure Recalls (s : CallSetting σ α) (known : MetadataCache) (root : RootKey)
    (told : RootKey → List Notice) (run : Run σ) : Prop where
  memory : run.client.metadata = known.addAll (told run.request.subject.root)
  root : LeavesRoot s.client s.context run.journal → run.request.subject.root = root

/-- Nothing has been told yet. -/
def silent : RootKey → List Notice := fun _ => []

def memoryEffects : List Effect := [.metadata, .request .subject]

variable {s : CallSetting σ α} {known : MetadataCache} {root : RootKey}
  {told : RootKey → List Notice} {run : Run σ}

theorem recalls_dependsOn : DependsOn memoryEffects (Recalls s known root told) := by
  intro effects run run' hn hf h
  have hmemory : run'.client.metadata = run.client.metadata :=
    hf.spares .metadata (hn _ (.head _))
  have hsubject : run'.request.subject = run.request.subject := hf.part (hn _ (.tail _ (.head _)))
  obtain ⟨new, hnew, -⟩ := hf.journal
  constructor
  · rw [hmemory, hsubject]
    exact h.memory
  · rw [hnew, hsubject]
    exact fun hleaves => h.root hleaves.of_append

/-- Somebody has been handed the request. -/
theorem Recalls.touched (h : Recalls s known root silent run) {run' : Run σ} {new : Journal σ}
    (hmemory : run'.client.metadata = run.client.metadata)
    (hj : run'.journal = run.journal ++ new)
    (hroot : LeavesRoot s.client s.context run'.journal → run.request.SameRoot run'.request) :
    Recalls s known root silent run' where
  memory := hmemory.trans h.memory
  root hleaves := (hroot hleaves).trans (h.root (hj ▸ hleaves).of_append)

namespace CallM

theorem sign_recalls (h : Recalls s known root silent run) (signer : Signer σ)
    (credentials : Credentials) :
    Ends (sign signer credentials) run (fun _ => Recalls s known root silent)
      fun _ => Recalls s known root silent := by
  have hsigned : ∀ run', (∃ handed, Signed signer credentials handed run run') →
      Frame signEffects run run' → Recalls s known root silent run' := by
    rintro run' ⟨handed, ⟨_, rfl⟩, hrequest, ⟨offset, hj⟩, -⟩ hf
    refine h.touched (hf.spares .metadata (by decide)) hj fun hleaves => ?_
    rw [hj] at hleaves
    rw [hrequest]
    exact hleaves.signers signer offset _ (List.mem_append_right _ (.head _)) _ _ run.world
  exact ((sign_ends signer credentials run).and ((sign_footprint signer credentials).ends run)).mono
    (fun _ run' h => hsigned run' h.1 h.2) fun _ run' h => hsigned run' h.1 h.2.1

theorem dispatch_recalls (h : Recalls s known root silent run) (limit : Option Duration) :
    Ends (dispatch s limit) run (fun _ => Recalls s known root silent)
      fun _ => Recalls s known root silent := by
  unfold dispatch
  simp only [ends_bind, ends_request, ends_get, ends_record, ends_performOnRequest]
  exact h.touched rfl rfl fun hleaves => hleaves.transport _ _ _

theorem remember_eq (metadata : Option Metadata) (run : Run σ) :
    remember metadata run = .ok () { run with client := { run.client with
      metadata := run.client.metadata.addAll
        (metadata.map fun m => (run.request.subject.root, m)).toList } } := by
  cases metadata with
  | none => rfl
  | some m => rfl

/-- A handler that has a result makes the call tell its metadata. -/
theorem complete_recalls (h : Recalls s known root silent run) (status : Status)
    (handled : Handled α) (r : HttpResponse) :
    Ends (complete s status handled r) run
      (fun response => Recalls s known root (noticesOf (.ok response)))
      fun _ => Recalls s known root silent := by
  unfold complete
  dsimp only
  rw [ends_bind, ends_ok_iff (remember_eq _ run)]
  refine ((returnCapacity_footprint s).ends_of_no_failure (by simp) _).bind fun _ returned hf => ?_
  refine ((announce_footprint _).ends_of_no_failure (by simp) returned).bind fun _ told hf' => ?_
  refine recalls_dependsOn _ _ _ (by decide) hf' (recalls_dependsOn _ _ _ (by decide) hf ?_)
  exact ⟨by rw [h.memory]; rfl, h.root⟩

/-- Before the first attempt nothing is told, and only hooks are handed the request. -/
theorem setOut_recalls (h : Recalls s known root silent run) :
    Ends (setOut s) run (fun _ => Recalls s known root silent) fun _ _ => True := by
  unfold setOut
  refine (((enrich_footprint s).keeps recalls_dependsOn (by decide) h).mono_failed
    fun _ _ _ => trivial).bind fun _ enriched h => ?_
  refine (ends_ok_iff (beforeSend_eq s enriched)).mpr ?_
  exact h.touched rfl rfl fun hleaves => Hook.beforeSendAll_sameRoot hleaves.hooks _ _

end CallM

theorem recalls_attemptInvariant (s : CallSetting σ α) (known : MetadataCache) (root : RootKey) :
    AttemptInvariant s memoryEffects (Recalls s known root silent)
      fun response => Recalls s known root (noticesOf (.ok response)) where
  dependsOn := recalls_dependsOn
  apart := by decide
  complete := fun status handled r _ h => CallM.complete_recalls h status handled r
  correctClock := fun headers e _ h =>
    (CallM.correctClock_footprint s headers e).keeps recalls_dependsOn (by decide) h
  quiet := by decide
  sign := fun signer credentials _ h => CallM.sign_recalls h signer credentials
  dispatch := fun limit _ h => CallM.dispatch_recalls h limit
  admits := fun o failure number _ h =>
    (CallM.admits_footprint s o failure number).keeps recalls_dependsOn (by decide) h

namespace Client

/-- A call leaves in the memory what it tells, and nothing else. -/
theorem call_recalls (c : Client σ) (handlers : Handlers σ α) (context : CallContext σ)
    (state : ClientState) (request : HttpRequest σ) (world : σ) :
    let report := (c.call handlers context state request world).1
    report.client.metadata = state.metadata.addAll report.told ∧
      ∀ response, report.result = .ok response → LeavesRoot c context report.journal →
        report.request.subject.root = request.subject.root := by
  intro report
  cases hs : state.isShutDown with
  | true =>
    rw [show report = _ from call_of_isShutDown hs]
    exact ⟨rfl, fun _ hresult => nomatch hresult⟩
  | false =>
    have hcall : CallM.Ends (CallM.call (c.settingAt handlers context request world))
        (c.runAt state request world)
        (fun result last =>
          last.client.metadata =
              state.metadata.addAll (noticesOf result last.request.subject.root) ∧
            ∀ response, result = .ok response → LeavesRoot c context last.journal →
              last.request.subject.root = request.subject.root) fun _ _ => False := by
      refine CallM.call_ends fun begun _ hbegun => ?_
      have hstart : Recalls (c.settingAt handlers context request world) state.metadata
          request.subject.root silent begun :=
        recalls_dependsOn _ _ _ (by decide) hbegun ⟨rfl, fun _ => rfl⟩
      refine CallM.conduct_ends (fun e stopped hf last hlast => ?_) fun outset hset _ => ?_
      · have hstopped : stopped.client.metadata = begun.client.metadata :=
          hf.spares .metadata (by decide)
        have hlast : last.client.metadata = stopped.client.metadata :=
          hlast.spares .metadata (by decide)
        exact ⟨hlast.trans (hstopped.trans hstart.memory), fun _ hresult => nomatch hresult⟩
      · have houtset := (CallM.ends_ok_iff hset).mp (CallM.setOut_recalls hstart)
        refine ((recalls_attemptInvariant _ _ _).attempts houtset).mono
          (fun response conducted h last hlast => ?_) fun e stopped h last hlast => ?_
        · have hended := recalls_dependsOn _ _ _ (by decide) hlast h
          exact ⟨hended.memory, fun _ _ => hended.root⟩
        · have hreturned := recalls_dependsOn _ _ _ (by decide)
            (CallM.giveUp_frame (c.settingAt handlers context request world) stopped) h
          have hended := recalls_dependsOn _ _ _ (by decide) hlast hreturned
          exact ⟨hended.memory, fun _ hresult => nomatch hresult⟩
    obtain ⟨result, last, hremembered, hreport⟩ := call_reports hs hcall
    rw [← hreport.result, ← hreport.request, ← hreport.client, ← hreport.journal] at hremembered
    exact hremembered

/-! ### All calls -/

/-- The client has come to the state after calls that have told the notices. Between calls anything
may happen that leaves the memory as it is. -/
inductive Serves (c : Client σ) : ClientState → List Notice → Prop where
  | start (clockOffset : Int) : Serves c (c.start clockOffset) []
  | call {α : Type} {state : ClientState} {told : List Notice} (before : Serves c state told)
    (handlers : Handlers σ α) (context : CallContext σ) (request : HttpRequest σ) (world : σ) :
    Serves c (c.call handlers context state request world).1.client
      (told ++ (c.call handlers context state request world).1.told)
  | meanwhile {state state' : ClientState} {told : List Notice} (before : Serves c state told)
    (kept : state'.metadata = state.metadata) : Serves c state' told

variable {c : Client σ} {state : ClientState} {told : List Notice}

/-- A client that is shut down still knows what it knew. -/
theorem Serves.shutdown (h : c.Serves state told) (world : σ) :
    c.Serves (c.shutdown state world).1 told := by
  refine h.meanwhile ?_
  unfold Client.shutdown
  split
  · rfl
  · rfl

/-- The memory of a client shows what its calls have told. -/
theorem Serves.shows (h : c.Serves state told) :
    state.metadata.capacity = c.config.metadataCacheSize ∧
      state.metadata.Shows (MetadataQueue.after c.config.metadataCacheSize told) := by
  induction h with
  | start clockOffset => exact ⟨rfl, MetadataCache.shows_nil _⟩
  | @call α state told _ handlers context request world ih =>
    obtain ⟨hcapacity, hshows⟩ := ih
    obtain ⟨hkept, hadded⟩ :=
      hshows.addAll (c.call handlers context state request world).1.told
    rw [hcapacity] at hkept hadded
    rw [(c.call_recalls handlers context state request world).1, MetadataQueue.after,
      List.foldl_append]
    exact ⟨hkept, hadded⟩
  | meanwhile _ kept ih =>
    rw [kept]
    exact ih

/-- A new request is not known yet if calls have told something under earlier roots only. -/
theorem Serves.metadata?_new (h : c.Serves state told) {last : RootKey}
    (hlast : ∀ n ∈ told, n.1 < last ∨ n.1 = last) {r : ServiceRequest σ} (hr : r.root = last.next) :
    state.metadata? r = none := by
  refine h.shows.2.get?_eq_none_iff.mpr fun hmem => ?_
  obtain ⟨n, hn, hroot⟩ := List.mem_map.mp hmem
  have hearlier : n.1 < last.next :=
    RootKey.lt_next_iff.mpr (hlast n (MetadataQueue.mem_told_of_mem_after hn))
  rw [hroot, hr] at hearlier
  exact Nat.lt_irrefl _ hearlier

end Client

/-- The memory of a client is a queue of at most so many notices of different roots. A call that
succeeds with metadata puts it in the place of what its root has told before, or else at the end,
and the oldest notice leaves when there are too many; no other call changes anything. So for every
request that is still in the queue there is what the calls with its copies have told last, and for
any other request there is nothing. -/
theorem metadata_of_calls (c : Client σ) {state : ClientState} {told : List Notice}
    (h : c.Serves state told) :
    let capacity := c.config.metadataCacheSize
    let q := MetadataQueue.after capacity told
    (state.metadata.Shows q ∧ state.metadata.entries.keys.Perm state.metadata.order ∧
      state.metadata.order.Nodup ∧ state.metadata.size ≤ capacity) ∧
    (capacity = 0 → state.metadata.entries.entries = [] ∧ state.metadata.order = []) ∧
    (∀ r : ServiceRequest σ, state.metadata? r =
      if r.root ∈ q.map Prod.fst then MetadataQueue.latest? told r.root else none) ∧
    ∀ {α : Type} (handlers : Handlers σ α) (context : CallContext σ) (request : HttpRequest σ)
      (world : σ),
      let report := (c.call handlers context state request world).1
      (∀ e, report.result = .error e → report.client.metadata = state.metadata) ∧
      (∀ response, report.result = .ok response → response.metadata = none →
        report.client.metadata = state.metadata) ∧
      ∀ response m, report.result = .ok response → response.metadata = some m →
        report.client.metadata.Shows
          (MetadataQueue.push capacity q (report.request.subject.root, m)) ∧
        (LeavesRoot c context report.journal →
          report.request.subject.root = request.subject.root) := by
  intro capacity q
  obtain ⟨hcapacity, hshows⟩ : state.metadata.capacity = capacity ∧ state.metadata.Shows q :=
    h.shows
  have hfits : q.length ≤ capacity := le_of_le_of_eq hshows.fits hcapacity
  refine ⟨⟨hshows, hshows.keys_perm, ?_, ?_⟩, fun hnone => ?_, fun r => ?_,
    fun handlers context request world => ?_⟩
  · rw [hshows.order]
    exact hshows.distinct
  · exact le_of_eq_of_le hshows.entries.length_eq hfits
  · have hempty : q = [] := List.eq_nil_of_length_eq_zero (by omega)
    rw [hempty] at hshows
    exact ⟨hshows.entries.eq_nil, hshows.order⟩
  · unfold ClientState.metadata?
    split
    · next hmem =>
      obtain ⟨⟨_, m⟩, hm, rfl⟩ := List.mem_map.mp hmem
      rw [hshows.get?_eq_some_iff.mpr hm, MetadataQueue.latest?_of_mem_after hm]
    · next hmem => exact hshows.get?_eq_none_iff.mpr hmem
  · intro report
    obtain ⟨hmemory, hroot⟩ := c.call_recalls handlers context state request world
    have htold : ∀ result, report.result = result →
        report.client.metadata = state.metadata.addAll
          (noticesOf result report.request.subject.root) := by
      rintro _ rfl
      exact hmemory
    refine ⟨fun e hresult => htold _ hresult, fun response hresult hnone => ?_,
      fun response m hresult hsome => ⟨?_, hroot response hresult⟩⟩
    · rw [htold _ hresult, noticesOf, hnone]
      rfl
    · rw [htold _ hresult, noticesOf, hsome, ← hcapacity]
      exact hshows.add (report.request.subject.root, m)

/-! ### Rehearsals -/

namespace Rehearsal

/-- There is room for the metadata of one request. -/
def forgetfulClient : Client Stage :=
  { client with config := { config with metadataCacheSize := 1 } }

def requestOf (root : RootKey) : HttpRequest Stage :=
  { request with subject := { subject with root } }

/-- The state after a call that is answered with the identifier. -/
def identify (state : ClientState) (root : RootKey) (id : String) : CallReport Stage Unit :=
  rehearse forgetfulClient expired (context (.fixed none) none) state (requestOf root)
    [.answering .ok (({} : Headers).set "x-ksc-request-id" ⟨Bytes.ofString id⟩)]

end Rehearsal

open Rehearsal in
/-- The client forgets the first request over the second one, and only the second one's. -/
theorem metadata_of_calls_elsewhere :
    let first := identify (forgetfulClient.start 0) ⟨1⟩ "a"
    let second := identify first.client ⟨2⟩ "b"
    let told := first.told ++ second.told
    forgetfulClient.Serves second.client told ∧
      (first.client.metadata? (requestOf ⟨1⟩).subject).bind Metadata.requestId = some "a" ∧
      second.client.metadata? (requestOf ⟨1⟩).subject = none ∧
      (second.client.metadata? (requestOf ⟨2⟩).subject).bind Metadata.requestId = some "b" := by
  intro first second told
  have hfirst : forgetfulClient.Serves first.client first.told :=
    .call (.start 0) (handlers expired) (context (.fixed none) none) (requestOf ⟨1⟩) _
  have hsecond : forgetfulClient.Serves second.client told :=
    .call hfirst (handlers expired) (context (.fixed none) none) (requestOf ⟨2⟩) _
  have hfacts :
      (MetadataQueue.after forgetfulClient.config.metadataCacheSize first.told).map Prod.fst =
        [⟨1⟩] ∧
      (MetadataQueue.after forgetfulClient.config.metadataCacheSize told).map Prod.fst = [⟨2⟩] ∧
      (MetadataQueue.latest? first.told ⟨1⟩).bind Metadata.requestId = some "a" ∧
      (MetadataQueue.latest? told ⟨2⟩).bind Metadata.requestId = some "b" := by
    simp only [told, second, first, identify, rehearse, Client.call, CallM.call, CallM.conduct,
      CallM.attempts_eq_turnsIn]
    decide +kernel
  obtain ⟨hone, htwo, ha, hb⟩ := hfacts
  obtain ⟨-, -, hknown, -⟩ := metadata_of_calls forgetfulClient hfirst
  obtain ⟨-, -, hknown', -⟩ := metadata_of_calls forgetfulClient hsecond
  refine ⟨hsecond, ?_, ?_, ?_⟩
  · rw [hknown, hone, if_pos (by decide)]
    exact ha
  · rw [hknown', htwo, if_neg (by decide)]
  · rw [hknown', htwo, if_pos (by decide)]
    exact hb

end ServiceCall
