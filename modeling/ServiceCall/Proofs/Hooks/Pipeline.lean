import Mathlib.Data.List.Basic
import ServiceCall.Client.Call

/-!
The hooks of a call, each of them under its place in the order of registration. Running them is
what the list of hooks says: in its order on the way out, in the opposite order on the way back.
-/

namespace ServiceCall

variable {σ α : Type}

/-! ### Registration -/

namespace CallContext

variable {c : CallContext σ}

/-- However many hooks a context is given, it has them after those that it had. -/
@[simp] theorem hooks_foldl_withHook (hooks : List (Hook σ)) :
    (hooks.foldl withHook c).hooks = c.hooks ++ hooks := by
  induction hooks generalizing c with
  | nil => exact (List.append_nil _).symm
  | cons hook hooks ih =>
    rw [List.foldl_cons, ih, withHook, List.append_assoc]
    rfl

end CallContext

/-! ### Places -/

/-- That the hooks at these places ran, one after the other. -/
def HookPhase.ran (phase : HookPhase) (places : List Nat) : Journal σ :=
  places.map fun place => .hook phase place

/-- The places of the hooks, in the order of registration. -/
def CallSetting.places (s : CallSetting σ α) : List Nat := List.range s.context.hooks.length

namespace CallM

/-! ### Loops over hooks -/

section

variable (phase : HookPhase) (run : Run σ)

theorem forM_performOnRequest (act : Hook σ → HttpRequest σ → StateM σ (HttpRequest σ))
    (hooks : List (Hook σ × Nat)) :
    (hooks.forM fun (hook, place) => do
      record (.hook phase place)
      performOnRequest fun r world =>
        let (r, world) := act hook r world
        (((), r), world) : CallM σ Unit) run =
      let left := (hooks.map Prod.fst).foldlM (fun r hook => act hook r) run.request run.world
      .ok () { run with
        request := left.1
        world := left.2
        journal := run.journal ++ phase.ran (hooks.map Prod.snd) } := by
  induction hooks generalizing run with
  | nil =>
    show EStateM.Result.ok () run = .ok () { run with journal := run.journal ++ [] }
    rw [List.append_nil]
  | cons entry hooks ih =>
    refine (ih { run with
      request := (act entry.1 run.request run.world).1
      world := (act entry.1 run.request run.world).2
      journal := run.journal ++ [.hook phase entry.2] }).trans ?_
    dsimp only
    rw [List.append_assoc]
    rfl

theorem forM_perform (act : Hook σ → HttpRequest σ → StateM σ Unit)
    (hooks : List (Hook σ × Nat)) :
    (hooks.forM fun (hook, place) => do
      record (.hook phase place)
      perform (act hook (← request)) : CallM σ Unit) run =
      .ok () { run with
        world := ((hooks.map Prod.fst).forM (fun hook => act hook run.request) run.world).2
        journal := run.journal ++ phase.ran (hooks.map Prod.snd) } := by
  induction hooks generalizing run with
  | nil =>
    show EStateM.Result.ok () run = .ok () { run with journal := run.journal ++ [] }
    rw [List.append_nil]
  | cons entry hooks ih =>
    refine (ih { run with
      world := (act entry.1 run.request run.world).2
      journal := run.journal ++ [.hook phase entry.2] }).trans ?_
    dsimp only
    rw [List.append_assoc]
    rfl

theorem foldlM_perform {β : Type} (act : Hook σ → HttpRequest σ → β → StateM σ β)
    (hooks : List (Hook σ × Nat)) (b : β) :
    (hooks.foldlM (fun b (hook, place) => do
      record (.hook phase place)
      perform (act hook (← request) b)) b : CallM σ β) run =
      let left := (hooks.map Prod.fst).foldlM (fun b hook => act hook run.request b) b run.world
      .ok left.1 { run with
        world := left.2
        journal := run.journal ++ phase.ran (hooks.map Prod.snd) } := by
  induction hooks generalizing run b with
  | nil =>
    show EStateM.Result.ok b run = .ok b { run with journal := run.journal ++ [] }
    rw [List.append_nil]
  | cons entry hooks ih =>
    refine (ih { run with
      world := (act entry.1 run.request b run.world).2
      journal := run.journal ++ [.hook phase entry.2] } _).trans ?_
    dsimp only
    rw [List.append_assoc]
    rfl

end

/-! ### The hooks of a call -/

variable (s : CallSetting σ α) (run : Run σ)

theorem zipIdx_hooks_snd : s.context.hooks.zipIdx.map Prod.snd = s.places := by
  rw [CallSetting.places, List.zipIdx_map_snd, List.range_eq_range']

theorem beforeSend_eq :
    beforeSend s run =
      let left := Hook.beforeSendAll s.context.hooks run.request run.world
      .ok () { run with
        request := left.1
        world := left.2
        journal := run.journal ++ HookPhase.beforeSend.ran s.places } := by
  have h := forM_performOnRequest .beforeSend run
    (fun hook r => hook.beforeSend r) s.context.hooks.zipIdx
  rwa [List.zipIdx_map_fst, zipIdx_hooks_snd] at h

theorem beforeUnmarshal_eq (r : HttpResponse) :
    beforeUnmarshal s r run =
      let seen := Hook.beforeUnmarshalAll s.context.hooks run.request r run.world
      .ok seen.1 { run with
        world := seen.2
        journal := run.journal ++ HookPhase.beforeUnmarshal.ran s.places.reverse } := by
  have h := foldlM_perform .beforeUnmarshal run
    (fun hook request r => hook.beforeUnmarshal request r) s.context.hooks.zipIdx.reverse r
  rwa [List.map_reverse, List.map_reverse, List.zipIdx_map_fst, zipIdx_hooks_snd] at h

theorem afterResponse_eq (response : Response α) :
    afterResponse s response run =
      .ok () { run with
        world := (Hook.afterResponseAll s.context.hooks run.request response.status
          response.headers run.world).2
        journal := run.journal ++ HookPhase.afterResponse.ran s.places.reverse } := by
  have h := forM_perform .afterResponse run
    (fun hook r => hook.afterResponse r response.status response.headers)
    s.context.hooks.zipIdx.reverse
  rwa [List.map_reverse, List.map_reverse, List.zipIdx_map_fst, zipIdx_hooks_snd] at h

theorem afterError_eq (e : Error) :
    afterError s e run =
      .ok () { run with
        world := (Hook.afterErrorAll s.context.hooks run.request e run.world).2
        journal := run.journal ++ HookPhase.afterError.ran s.places.reverse } := by
  have h := forM_perform .afterError run
    (fun hook r => hook.afterError r e) s.context.hooks.zipIdx.reverse
  rwa [List.map_reverse, List.map_reverse, List.zipIdx_map_fst, zipIdx_hooks_snd] at h

end CallM

end ServiceCall
