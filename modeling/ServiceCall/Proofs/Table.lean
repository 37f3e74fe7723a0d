import Mathlib.Algebra.Order.Ring.Nat
import Mathlib.Order.Defs.Unbundled
import ServiceCall.Table

/-!
Tables in key order. A table whose entries are in order of their keys stays so, and what is put
under a key stands beside all entries that other keys have.
-/

namespace ServiceCall.Table

variable {κ α : Type}

/-- The entries are in order of their keys, so that no key comes twice. -/
def Sorted [LT κ] (t : Table κ α) : Prop := t.entries.Pairwise fun e e' => e.1 < e'.1

theorem sorted_empty [LT κ] : (Table.empty : Table κ α).Sorted := .nil

section Find

variable [DecidableEq κ]

/-- Among entries of different keys the value of a key is the one that it stands with. -/
theorem find?_eq_some_iff {t : Table κ α} (h : t.keys.Nodup) {k : κ} {v : α} :
    t.find? k = some v ↔ (k, v) ∈ t.entries := by
  obtain ⟨entries⟩ := t
  simp only [find?, keys] at *
  induction entries with
  | nil => simp
  | cons e rest ih =>
    obtain ⟨hfresh, hrest⟩ := List.nodup_cons.mp h
    by_cases he : e.1 = k
    · have hout : (k, v) ∉ rest := fun hm => hfresh (he ▸ List.mem_map_of_mem hm)
      simp [he, hout, Prod.ext_iff, eq_comm]
    · simpa [List.find?_cons, he, Prod.ext_iff, Ne.symm he] using ih hrest

theorem contains_iff_mem_keys {t : Table κ α} {k : κ} : t.contains k = true ↔ k ∈ t.keys := by
  simp [contains, find?, keys]

theorem find?_eq_none_iff {t : Table κ α} {k : κ} : t.find? k = none ↔ k ∉ t.keys := by
  rw [← contains_iff_mem_keys, contains, Option.not_isSome_iff_eq_none]

end Find

theorem Sorted.erase [DecidableEq κ] [LT κ] {t : Table κ α} (h : t.Sorted) (k : κ) :
    (t.erase k).Sorted :=
  List.Pairwise.filter _ h

variable [LT κ] [IsStrictTotalOrder κ (· < ·)]

theorem Sorted.nodup_keys {t : Table κ α} (h : t.Sorted) : t.keys.Nodup := by
  have hkeys : t.keys.Pairwise (· < ·) := List.pairwise_map.mpr h
  exact hkeys.imp ne_of_irrefl

variable [DecidableEq κ]

/-- The sum of all values. -/
def total (t : Table κ Nat) : Nat := (t.entries.map Prod.snd).sum

/-- A key adds its value to the total. -/
theorem Sorted.total_erase_add {t : Table κ Nat} (h : t.Sorted) (k : κ) :
    (t.erase k).total + (t.find? k).getD 0 = t.total := by
  have hkeys := h.nodup_keys
  obtain ⟨entries⟩ := t
  simp only [total, Table.erase, find?, keys] at *
  clear h
  induction entries with
  | nil => rfl
  | cons e rest ih =>
    obtain ⟨hfresh, hrest⟩ := List.nodup_cons.mp hkeys
    by_cases he : e.1 = k
    · have hall : rest.filter (·.1 ≠ k) = rest :=
        List.filter_eq_self.mpr fun e' he' => decide_eq_true fun heq =>
          hfresh (he.trans heq.symm ▸ List.mem_map_of_mem he')
      simp only [List.filter_cons, List.find?_cons, he, ne_eq, not_true_eq_false, decide_false,
        Bool.false_eq_true, if_false, decide_true, hall, List.map_cons, List.sum_cons]
      exact Nat.add_comm _ _
    · have hadded := ih hrest
      simp only [List.filter_cons, List.find?_cons, he, ne_eq, not_false_eq_true, decide_true,
        if_true, decide_false, List.map_cons, List.sum_cons, ← hadded]
      exact Nat.add_assoc ..

variable [DecidableLT κ]

/-- Entries in order lose nothing but the older entry of the key. -/
theorem put_perm (k : κ) (v : α) {entries : List (κ × α)}
    (h : entries.Pairwise fun e e' => e.1 < e'.1) :
    (put k v entries).Perm ((k, v) :: entries.filter (·.1 ≠ k)) := by
  induction entries with
  | nil => exact .refl _
  | cons e rest ih =>
    obtain ⟨hfirst, hrest⟩ := List.pairwise_cons.mp h
    have hlarger : (∀ e' ∈ rest, k < e'.1) → rest.filter (·.1 ≠ k) = rest := fun hlt =>
      List.filter_eq_self.mpr fun e' he' => decide_eq_true (ne_of_irrefl' (hlt e' he'))
    simp only [put]
    split
    · next heq =>
      rw [List.filter_cons_of_neg (by simp [heq]), hlarger fun e' he' => heq ▸ hfirst e' he']
    · next hne =>
      rw [List.filter_cons_of_pos (by simp [Ne.symm hne])]
      split
      · next hlt => rw [hlarger fun e' he' => trans_of (· < ·) hlt (hfirst e' he')]
      · exact ((ih hrest).cons e).trans (.swap ..)

theorem Sorted.insert_perm {t : Table κ α} (h : t.Sorted) (k : κ) (v : α) :
    (t.insert k v).entries.Perm ((k, v) :: (t.erase k).entries) :=
  put_perm k v h

theorem Sorted.insert {t : Table κ α} (h : t.Sorted) (k : κ) (v : α) : (t.insert k v).Sorted := by
  obtain ⟨entries⟩ := t
  unfold Sorted Table.insert at *
  dsimp only at *
  induction entries with
  | nil => exact List.pairwise_singleton ..
  | cons e rest ih =>
    obtain ⟨hfirst, hrest⟩ := List.pairwise_cons.mp h
    simp only [put]
    split
    · next heq => exact List.pairwise_cons.mpr ⟨fun e' he' => heq ▸ hfirst e' he', hrest⟩
    · next hne =>
      split
      · next hlt =>
        refine List.pairwise_cons.mpr ⟨fun e' he' => ?_, h⟩
        rcases List.mem_cons.mp he' with rfl | he'
        · exact hlt
        · exact trans_of (· < ·) hlt (hfirst e' he')
      · next hge =>
        refine List.pairwise_cons.mpr ⟨fun e' he' => ?_, ih hrest⟩
        rcases List.mem_cons.mp ((put_perm k v hrest).mem_iff.mp he') with rfl | he'
        · exact ((trichotomous_of (· < ·) k e.1).resolve_left hge).resolve_left hne
        · exact hfirst e' (List.mem_filter.mp he').1

theorem Sorted.total_insert {t : Table κ Nat} (h : t.Sorted) (k : κ) (n : Nat) :
    (t.insert k n).total = n + (t.erase k).total :=
  ((h.insert_perm k n).map Prod.snd).sum_nat

end ServiceCall.Table
