/-! Lists cut into the parts between separators. -/

namespace ServiceCall.Parts

/-- The parts between the elements that separate, empty ones included; there is always one. -/
def split {α : Type} (separates : α → Bool) : List α → List (List α)
  | [] => [[]]
  | a :: rest =>
    match split separates rest with
    | [] => [[a]]
    | part :: parts => if separates a then [] :: part :: parts else (a :: part) :: parts

theorem split_ne_nil {α : Type} (separates : α → Bool) (as : List α) :
    split separates as ≠ [] := by
  fun_induction split separates as <;> simp

/-- Nothing but separators is lost. -/
theorem flatten_split {α : Type} (separates : α → Bool) (as : List α) :
    (split separates as).flatten = as.filter (!separates ·) := by
  fun_induction split separates as with
  | case1 => rfl
  | case2 a rest h => exact absurd h (split_ne_nil separates rest)
  | case3 a rest part parts h hs ih => simp [hs, ← ih, h]
  | case4 a rest part parts h hs ih => simp [hs, ← ih, h]

end ServiceCall.Parts
