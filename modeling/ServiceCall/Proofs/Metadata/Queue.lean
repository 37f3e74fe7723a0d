import Mathlib.Data.List.Induction
import Mathlib.Data.List.Nodup
import ServiceCall.Proofs.Table
import ServiceCall.Response.Metadata

/-!
The memory of metadata as a queue. The memory keeps metadata in a table and the order of the roots
in a list; both show one queue, from whose head the oldest metadata leaves.
-/

namespace ServiceCall

instance : IsStrictTotalOrder RootKey (· < ·) where
  trichotomous _ _ hab hba := congrArg RootKey.mk (Nat.le_antisymm (Nat.le_of_not_lt hba)
    (Nat.le_of_not_lt hab))
  irrefl root := Nat.lt_irrefl root.id
  trans _ _ _ := Nat.lt_trans

/-- Metadata, with the root under which it is told. -/
abbrev Notice := RootKey × Metadata

namespace MetadataQueue

variable {capacity : Nat} {q told : List Notice} {n e : Notice}

/-- Puts the notice in the place of the older one under its root. -/
def replace (q : List Notice) (n : Notice) : List Notice :=
  q.map fun e => if e.1 = n.1 then n else e

/-- The oldest notice leaves if there are too many. -/
def trim (capacity : Nat) (q : List Notice) : List Notice :=
  if q.length ≤ capacity then q else q.tail

/-- A notice takes the place of the older one under its root, and goes to the end if there is
none. -/
def push (capacity : Nat) (q : List Notice) (n : Notice) : List Notice :=
  if n.1 ∈ q.map Prod.fst then replace q n else trim capacity (q ++ [n])

/-- The queue after all that was told. -/
def after (capacity : Nat) (told : List Notice) : List Notice := told.foldl (push capacity) []

/-- What was told last under the root. -/
def latest? (told : List Notice) (root : RootKey) : Option Metadata :=
  (told.filter (·.1 = root)).getLast?.map Prod.snd

/-! ### Notices under other roots -/

theorem ne_of_not_mem_keys (hn : n.1 ∉ q.map Prod.fst) (he : e ∈ q) : e.1 ≠ n.1 :=
  fun heq => hn (heq ▸ List.mem_map_of_mem he)

theorem filter_ne_eq_self (hn : n.1 ∉ q.map Prod.fst) : q.filter (·.1 ≠ n.1) = q :=
  List.filter_eq_self.mpr fun _ he => decide_eq_true (ne_of_not_mem_keys hn he)

theorem replace_eq_self (hn : n.1 ∉ q.map Prod.fst) : replace q n = q :=
  (List.map_congr_left fun _ he => if_neg (ne_of_not_mem_keys hn he)).trans (List.map_id _)

/-- Up to their order, a notice that takes a place stands in front of the others. -/
theorem replace_perm (hdistinct : (q.map Prod.fst).Nodup) (hmem : n.1 ∈ q.map Prod.fst) :
    (replace q n).Perm (n :: q.filter (·.1 ≠ n.1)) := by
  induction q with
  | nil => exact absurd hmem List.not_mem_nil
  | cons e rest ih =>
    obtain ⟨hfresh, hrest⟩ := List.nodup_cons.mp hdistinct
    by_cases heq : e.1 = n.1
    · have hother : n.1 ∉ rest.map Prod.fst := heq ▸ hfresh
      rw [List.filter_cons_of_neg (by simp [heq]), filter_ne_eq_self hother, replace,
        List.map_cons, if_pos heq]
      exact .cons _ (.of_eq (replace_eq_self hother))
    · have hin : n.1 ∈ rest.map Prod.fst := (List.mem_cons.mp hmem).resolve_left (Ne.symm heq)
      rw [List.filter_cons_of_pos (by simp [heq]), replace, List.map_cons, if_neg heq]
      exact ((ih hrest hin).cons e).trans (.swap ..)

/-! ### One notice more -/

theorem keys_replace : (replace q n).map Prod.fst = q.map Prod.fst := by
  rw [replace, List.map_map]
  refine List.map_congr_left fun e _ => ?_
  dsimp only [Function.comp]
  split
  · next heq => exact heq.symm
  · rfl

theorem nodup_concat (h : (q.map Prod.fst).Nodup) (hn : n.1 ∉ q.map Prod.fst) :
    ((q ++ [n]).map Prod.fst).Nodup := by
  rw [List.map_append, List.map_singleton, ← List.concat_eq_append]
  exact h.concat hn

theorem mem_of_mem_trim (h : e ∈ trim capacity q) : e ∈ q := by
  unfold trim at h
  split at h
  · exact h
  · exact List.mem_of_mem_tail h

/-- Under the root of a notice the queue then holds nothing else. -/
theorem mem_push (h : e ∈ push capacity q n) : e = n ∨ e.1 ≠ n.1 ∧ e ∈ q := by
  unfold push at h
  split at h
  · obtain ⟨e', he', rfl⟩ := List.mem_map.mp h
    split
    · exact .inl rfl
    · next hne => exact .inr ⟨hne, he'⟩
  · next hn =>
    rcases List.mem_append.mp (mem_of_mem_trim h) with he | he
    · exact .inr ⟨fun heq => hn (heq ▸ List.mem_map_of_mem he), he⟩
    · exact .inl (List.mem_singleton.mp he)

/-! ### The latest notice -/

theorem latest?_concat (told : List Notice) (n : Notice) (root : RootKey) :
    latest? (told ++ [n]) root = if n.1 = root then some n.2 else latest? told root := by
  unfold latest?
  rw [List.filter_append]
  split
  · next heq => simp [heq]
  · next hne => simp [hne]

theorem after_concat (capacity : Nat) (told : List Notice) (n : Notice) :
    after capacity (told ++ [n]) = push capacity (after capacity told) n :=
  List.foldl_concat ..

/-- Under every root the queue holds what was told last. -/
theorem latest?_of_mem_after (h : e ∈ after capacity told) : latest? told e.1 = some e.2 := by
  induction told using List.reverseRecOn with
  | nil => simp [after] at h
  | append_singleton told n ih =>
    rw [after_concat] at h
    rw [latest?_concat]
    rcases mem_push h with rfl | ⟨hne, hmem⟩
    · rw [if_pos rfl]
    · rw [if_neg (Ne.symm hne)]
      exact ih hmem

theorem mem_told_of_mem_after (h : e ∈ after capacity told) : e ∈ told := by
  obtain ⟨n, hlast, hn⟩ := Option.map_eq_some_iff.mp (latest?_of_mem_after h)
  obtain ⟨hmem, hroot⟩ := List.mem_filter.mp (List.mem_of_getLast? hlast)
  exact Prod.ext (of_decide_eq_true hroot) hn ▸ hmem

end MetadataQueue

/-! ### The memory -/

namespace MetadataCache

open MetadataQueue

variable {c : MetadataCache} {q : List Notice}

def addAll (c : MetadataCache) (told : List Notice) : MetadataCache :=
  told.foldl (fun c n => c.add n.1 n.2) c

/-- Table and order show the queue. -/
structure Shows (c : MetadataCache) (q : List Notice) : Prop where
  sorted : c.entries.Sorted
  entries : c.entries.entries.Perm q
  order : c.order = q.map Prod.fst
  distinct : (q.map Prod.fst).Nodup
  fits : q.length ≤ c.capacity

theorem shows_nil (capacity : Nat) : ({ capacity } : MetadataCache).Shows [] :=
  ⟨Table.sorted_empty, .nil, rfl, .nil, Nat.zero_le _⟩

theorem Shows.keys_perm (h : c.Shows q) : c.entries.keys.Perm c.order :=
  h.order ▸ h.entries.map Prod.fst

theorem Shows.get?_eq_some_iff (h : c.Shows q) {root : RootKey} {m : Metadata} :
    c.get? root = some m ↔ (root, m) ∈ q := by
  rw [get?, Table.find?_eq_some_iff h.sorted.nodup_keys, h.entries.mem_iff]

theorem Shows.get?_eq_none_iff (h : c.Shows q) {root : RootKey} :
    c.get? root = none ↔ root ∉ q.map Prod.fst := by
  rw [get?, Table.find?_eq_none_iff, h.keys_perm.mem_iff, h.order]

theorem capacity_add (c : MetadataCache) (root : RootKey) (m : Metadata) :
    (c.add root m).capacity = c.capacity := by
  unfold add
  split
  · rfl
  · dsimp only
    split
    · rfl
    · rfl

/-- If there is one root too many, the oldest one is dropped. -/
theorem evict_shows (sorted : c.entries.Sorted) (entries : c.entries.entries.Perm q)
    (order : c.order = q.map Prod.fst) (distinct : (q.map Prod.fst).Nodup)
    (fits : q.length ≤ c.capacity + 1) : c.evict.Shows (trim c.capacity q) := by
  have hlength : c.order.length = q.length := by rw [order, List.length_map]
  unfold evict trim
  split
  · next hle =>
    rw [hlength, Nat.sub_eq_zero_of_le hle]
    exact ⟨sorted, entries, order, distinct, hle⟩
  · next hgt =>
    rw [hlength, show q.length - c.capacity = 1 by omega]
    cases q with
    | nil => exact absurd (Nat.zero_le _) hgt
    | cons oldest rest =>
      obtain ⟨hfresh, hrest⟩ := List.nodup_cons.mp distinct
      have hkept : (oldest :: rest).filter (·.1 ≠ oldest.1) = rest := by
        rw [List.filter_cons_of_neg (by simp)]
        exact filter_ne_eq_self hfresh
      refine ⟨?_, ?_, ?_, hrest, by simpa using fits⟩
      · rw [order]
        exact sorted.erase oldest.1
      · rw [order]
        exact hkept ▸ entries.filter _
      · rw [order]
        rfl

/-- The memory with one more notice shows the queue with one more. -/
theorem Shows.add (h : c.Shows q) (n : Notice) : (c.add n.1 n.2).Shows (push c.capacity q n) := by
  have hkeys : c.entries.contains n.1 = true ↔ n.1 ∈ q.map Prod.fst := by
    rw [Table.contains_iff_mem_keys, h.keys_perm.mem_iff, h.order]
  have hput : (c.entries.insert n.1 n.2).entries.Perm (n :: q.filter (·.1 ≠ n.1)) :=
    (h.sorted.insert_perm n.1 n.2).trans ((h.entries.filter _).cons n)
  unfold MetadataCache.add push
  split
  · next hnone =>
    -- Without room there is nothing in the queue, and nothing is put there.
    obtain rfl : q = [] := List.eq_nil_of_length_eq_zero (by have := h.fits; omega)
    simpa [hnone, trim] using h
  · dsimp only
    by_cases hknown : n.1 ∈ q.map Prod.fst
    · rw [if_pos (hkeys.mpr hknown), if_pos hknown]
      refine ⟨h.sorted.insert n.1 n.2, hput.trans (replace_perm h.distinct hknown).symm, ?_, ?_, ?_⟩
      · exact h.order.trans keys_replace.symm
      · rw [keys_replace]
        exact h.distinct
      · rw [replace, List.length_map]
        exact h.fits
    · rw [if_neg fun hc => hknown (hkeys.mp hc), if_neg hknown]
      have hother : q.filter (·.1 ≠ n.1) = q := filter_ne_eq_self hknown
      refine evict_shows (h.sorted.insert n.1 n.2) ?_ ?_ (nodup_concat h.distinct hknown) ?_
      · exact (hother ▸ hput).trans (List.perm_append_singleton n q).symm
      · simp [h.order]
      · simpa using h.fits

/-- Whatever the memory is told, it shows the queue that has been told the same. -/
theorem Shows.addAll (h : c.Shows q) (told : List Notice) :
    (c.addAll told).capacity = c.capacity ∧
      (c.addAll told).Shows (told.foldl (push c.capacity) q) := by
  induction told generalizing c q with
  | nil => exact ⟨rfl, h⟩
  | cons n told ih =>
    have hcapacity := capacity_add c n.1 n.2
    have hrest := ih (h.add n)
    rw [hcapacity] at hrest
    exact hrest

end MetadataCache

end ServiceCall
