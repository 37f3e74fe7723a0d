import Mathlib.Data.List.Basic
import ServiceCall.Client.Journal

/-! Laws of journals: each event is judged by what came before it. -/

namespace ServiceCall.Journal

variable {σ : Type} {law : Journal σ → Event σ → Prop} {j new : Journal σ}

/-- Every event is in order after what came before it. -/
def Obeys (law : Journal σ → Event σ → Prop) (j : Journal σ) : Prop :=
  ∀ before e after, j = before ++ e :: after → law before e

theorem obeys_nil (law : Journal σ → Event σ → Prop) : Obeys law [] := by
  intro before e after h
  simp at h

theorem Obeys.last {e : Event σ} (h : (j ++ [e]).Obeys law) : law j e := h j e [] rfl

theorem Obeys.of_append (h : (j ++ new).Obeys law) : j.Obeys law := by
  rintro before e after rfl
  exact h before e (after ++ new) (by simp)

theorem Obeys.append (h : j.Obeys law)
    (hnew : ∀ before e after, new = before ++ e :: after → law (j ++ before) e) :
    (j ++ new).Obeys law := by
  intro before e after heq
  rcases List.append_eq_append_iff.mp heq with ⟨mid, rfl, hmid⟩ | ⟨mid, rfl, hmid⟩
  · exact hnew mid e after hmid
  · cases mid with
    | nil => simpa using hnew [] e after hmid.symm
    | cons e' mid =>
      obtain ⟨rfl, -⟩ := List.cons.inj hmid
      exact h before e mid rfl

theorem Obeys.concat (h : j.Obeys law) {e : Event σ} (he : law j e) : (j ++ [e]).Obeys law := by
  refine h.append fun before e' after heq => ?_
  cases before with
  | nil =>
    obtain ⟨rfl, -⟩ := List.cons.inj heq
    simpa using he
  | cons e'' before => simp at heq

/-- Events that are always in order do no harm. -/
theorem Obeys.append_of_free (h : j.Obeys law) (hfree : ∀ e ∈ new, ∀ before, law before e) :
    (j ++ new).Obeys law := by
  refine h.append fun before e after heq => hfree e ?_ _
  rw [heq]
  exact List.mem_append_right _ (.head _)

end ServiceCall.Journal
