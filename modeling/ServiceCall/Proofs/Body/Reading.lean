import Mathlib.Data.List.Basic
import ServiceCall.Body

/-!
Reading of payloads. Whoever reads a payload takes bytes from its front, and what is left is the
rest. A payload that is read to its end gives all of its rest.
-/

namespace ServiceCall

/-- What a read handed over. -/
def gained : Except IoError Bytes → Bytes
  | .ok got => got
  | .error _ => []

/-! ### Sources -/

namespace Source

/-- The sources differ at most in how far they have been read. -/
structure Alike (s s' : Source) : Prop where
  data : s'.data = s.data
  serve : s'.serve = s.serve
  seekError : s'.seekError = s.seekError
  positionError : s'.positionError = s.positionError

theorem Alike.refl (s : Source) : Alike s s := ⟨rfl, rfl, rfl, rfl⟩

theorem Alike.trans {s s' s'' : Source} (h : Alike s s') (h' : Alike s' s'') : Alike s s'' :=
  ⟨h'.data.trans h.data, h'.serve.trans h.serve, h'.seekError.trans h.seekError,
    h'.positionError.trans h.positionError⟩

/-- The source hands over nothing only at its end. -/
def Honest (s : Source) : Prop :=
  ∀ calls position, position < s.data.length → s.serve calls position ≠ .upTo 0

/-- The source never fails. -/
def Sound (s : Source) : Prop := ∀ calls position e, s.serve calls position ≠ .fail e

theorem Alike.honest {s s' : Source} (h : Alike s s') (hs : s.Honest) : s'.Honest := by
  unfold Honest
  rw [h.data, h.serve]
  exact hs

theorem Alike.sound {s s' : Source} (h : Alike s s') (hs : s.Sound) : s'.Sound := by
  unfold Sound
  rw [h.serve]
  exact hs

variable {s s' : Source} {n : Nat} {answer : Except IoError Bytes}

/-- A read moves the position over what it hands over, and does nothing else. -/
theorem read_spec (h : s.read n = (answer, s')) :
    ∃ k calls, s' = { s with position := s.position + k, calls } ∧
      gained answer = s.rest.take k := by
  by_cases hn : n = 0
  · rw [read, if_pos hn] at h
    obtain ⟨rfl, rfl⟩ := Prod.mk.inj h
    exact ⟨0, s.calls, rfl, rfl⟩
  · rw [read, if_neg hn] at h
    cases hserve : s.serve s.calls s.position with
    | fail e =>
      rw [hserve] at h
      obtain ⟨rfl, rfl⟩ := Prod.mk.inj h
      exact ⟨0, s.calls + 1, rfl, rfl⟩
    | upTo k =>
      rw [hserve] at h
      obtain ⟨rfl, rfl⟩ := Prod.mk.inj h
      refine ⟨(s.rest.take (min n k)).length, s.calls + 1, rfl, ?_⟩
      simp [gained, List.take_eq_take_iff]

theorem append_rest_of_read (h : s.read n = (answer, s')) : gained answer ++ s'.rest = s.rest := by
  obtain ⟨k, calls, rfl, hgot⟩ := read_spec h
  rw [hgot]
  simp only [rest]
  rw [← List.drop_drop]
  exact List.take_append_drop k _

theorem alike_of_read (h : s.read n = (answer, s')) : Alike s s' := by
  obtain ⟨k, calls, rfl, -⟩ := read_spec h
  exact ⟨rfl, rfl, rfl, rfl⟩

theorem Honest.rest_eq_nil (hs : s.Honest) (hn : 0 < n) (h : s.read n = (.ok [], s')) :
    s.rest = [] := by
  rw [read, if_neg (Nat.pos_iff_ne_zero.mp hn)] at h
  cases hserve : s.serve s.calls s.position with
  | fail e =>
    rw [hserve] at h
    exact absurd (Prod.mk.inj h).1 (by simp)
  | upTo k =>
    rw [hserve] at h
    have htake := Except.ok.inj (Prod.mk.inj h).1
    rcases List.take_eq_nil_iff.mp htake with hmin | hrest
    · obtain rfl : k = 0 := by omega
      have hend : s.data.length ≤ s.position := by
        by_contra hlt
        exact hs _ _ (Nat.lt_of_not_le hlt) hserve
      exact List.drop_eq_nil_of_le hend
    · exact hrest

theorem Sound.exists_ok (hs : s.Sound) (n : Nat) : ∃ got, (s.read n).1 = .ok got := by
  unfold read
  split
  · exact ⟨_, rfl⟩
  · cases hserve : s.serve s.calls s.position with
    | fail e => exact absurd hserve (hs _ _ e)
    | upTo k => exact ⟨_, rfl⟩

end Source

/-! ### Buffered streams -/

namespace Replay

/-- What is left to read. -/
def rest (r : Replay) : Bytes := r.kept.drop r.position ++ r.source.rest

/-- The five ways of a read: from what was kept, in vain, without a mark, over the limit of the
mark, and within it. -/
theorem read_cases {P : Except IoError Bytes × Replay → Prop} (r : Replay) (n : Nat)
    (kept : r.position < r.kept.length →
      P (.ok ((r.kept.drop r.position).take n),
        { r with position := r.position + ((r.kept.drop r.position).take n).length }))
    (fail : ∀ e source, r.kept.length ≤ r.position → r.source.read n = (.error e, source) →
      P (.error e, { r with source }))
    (invalid : ∀ got source, r.kept.length ≤ r.position → r.source.read n = (.ok got, source) →
      r.markValid = false → P (.ok got, { r with source }))
    (beyond : ∀ got source, r.kept.length ≤ r.position → r.source.read n = (.ok got, source) →
      r.markValid = true → r.limit < r.kept.length + got.length →
      P (.ok got, { r with source, kept := [], position := 0, markValid := false }))
    (inside : ∀ got source, r.kept.length ≤ r.position → r.source.read n = (.ok got, source) →
      r.markValid = true → r.kept.length + got.length ≤ r.limit →
      P (.ok got, { r with source, kept := r.kept ++ got, position := (r.kept ++ got).length })) :
    P (r.read n) := by
  rcases Nat.lt_or_ge r.position r.kept.length with hlt | hge
  · rw [read, if_pos hlt]
    exact kept hlt
  · rw [read, if_neg (Nat.not_lt.mpr hge)]
    rcases hread : r.source.read n with ⟨e | got, source⟩
    · exact fail e source hge hread
    · cases hmark : r.markValid with
      | false =>
        simp only [Bool.false_eq_true, if_false]
        have := invalid got source hge hread hmark
        rwa [hmark] at this
      | true =>
        simp only [if_true]
        split
        · next hlimit => exact beyond got source hge hread hmark hlimit
        · next hlimit =>
          have := inside got source hge hread hmark (Nat.not_lt.mp hlimit)
          rwa [hmark] at this

theorem read_append_rest (r : Replay) (n : Nat) :
    gained (r.read n).1 ++ (r.read n).2.rest = r.rest := by
  have hused : r.kept.length ≤ r.position → r.rest = r.source.rest := by
    intro h
    rw [rest, List.drop_eq_nil_of_le h, List.nil_append]
  refine read_cases (P := fun answer => gained answer.1 ++ answer.2.rest = r.rest) r n
    ?_ ?_ ?_ ?_ ?_
  · intro _
    simp only [gained, rest]
    rw [← List.drop_drop, ← List.append_assoc,
      List.prefix_iff_eq_append.mp (List.take_prefix n (r.kept.drop r.position))]
  · intro e source hge hread
    rw [hused hge, ← Source.append_rest_of_read hread]
    simp [gained, rest, List.drop_eq_nil_of_le hge]
  · intro got source hge hread _
    rw [hused hge, ← Source.append_rest_of_read hread]
    simp [gained, rest, List.drop_eq_nil_of_le hge]
  · intro got source hge hread _ _
    rw [hused hge, ← Source.append_rest_of_read hread]
    simp [gained, rest]
  · intro got source hge hread _ _
    rw [hused hge, ← Source.append_rest_of_read hread]
    simp [gained, rest]

theorem alike_read (r : Replay) (n : Nat) :
    r.source.Alike (r.read n).2.source ∧ (r.read n).2.limit = r.limit := by
  refine read_cases (P := fun answer => r.source.Alike answer.2.source ∧ answer.2.limit = r.limit)
    r n ?_ ?_ ?_ ?_ ?_
  · exact fun _ => ⟨.refl _, rfl⟩
  · exact fun e source _ hread => ⟨Source.alike_of_read hread, rfl⟩
  · exact fun got source _ hread _ => ⟨Source.alike_of_read hread, rfl⟩
  · exact fun got source _ hread _ _ => ⟨Source.alike_of_read hread, rfl⟩
  · exact fun got source _ hread _ _ => ⟨Source.alike_of_read hread, rfl⟩

theorem rest_eq_nil_of_read {r : Replay} {n : Nat} (hs : r.source.Honest) (hn : 0 < n)
    (h : (r.read n).1 = .ok []) : r.rest = [] := by
  have hend : ∀ got source, r.kept.length ≤ r.position → r.source.read n = (.ok got, source) →
      (.ok got : Except IoError Bytes) = .ok [] → r.rest = [] := by
    intro got source hge hread h
    rw [rest, List.drop_eq_nil_of_le hge, hs.rest_eq_nil hn (hread.trans (congrArg (·, source) h))]
    rfl
  revert h
  refine read_cases (P := fun answer => answer.1 = .ok [] → r.rest = []) r n ?_ ?_ ?_ ?_ ?_
  · intro hlt h
    have hlength := congrArg List.length (Except.ok.inj h)
    rw [List.length_take, List.length_drop, List.length_nil] at hlength
    omega
  · intro e source _ _ h
    exact absurd h (by simp)
  · exact fun got source hge hread _ => hend got source hge hread
  · exact fun got source hge hread _ _ => hend got source hge hread
  · exact fun got source hge hread _ _ => hend got source hge hread

theorem exists_ok_of_sound {r : Replay} (hs : r.source.Sound) (n : Nat) :
    ∃ got, (r.read n).1 = .ok got := by
  refine read_cases (P := fun answer => ∃ got, answer.1 = .ok got) r n ?_ ?_ ?_ ?_ ?_
  · exact fun _ => ⟨_, rfl⟩
  · intro e source _ hread
    obtain ⟨got, hgot⟩ := hs.exists_ok n
    exact absurd ((congrArg Prod.fst hread).symm.trans hgot) (by simp)
  · exact fun got source _ _ _ => ⟨got, rfl⟩
  · exact fun got source _ _ _ _ => ⟨got, rfl⟩
  · exact fun got source _ _ _ _ => ⟨got, rfl⟩

end Replay

/-! ### Payloads -/

namespace Body

/-- What is left to read. -/
def rest : Body → Bytes
  | .empty => []
  | .bytes data position _ => data.drop position
  | .seekable source _ => source.rest
  | .buffered replay => replay.rest
  | .stream source => source.rest

def source? : Body → Option Source
  | .seekable source _ => some source
  | .buffered replay => some replay.source
  | .stream source => some source
  | _ => none

/-- The bodies are of one kind, and their sources differ at most in how far they have been read. -/
def Alike : Body → Body → Prop
  | .empty, .empty => True
  | .bytes .., .bytes .. => True
  | .seekable source _, .seekable source' _ => source.Alike source'
  | .buffered replay, .buffered replay' =>
    replay.source.Alike replay'.source ∧ replay'.limit = replay.limit
  | .stream source, .stream source' => source.Alike source'
  | _, _ => False

/-- Whoever reads the body to its end learns so. -/
def Honest (b : Body) : Prop := ∀ source, b.source? = some source → source.Honest

/-- The body can be read without a failure. -/
def Sound (b : Body) : Prop := ∀ source, b.source? = some source → source.Sound

/-- The second body comes from the first one by reading. -/
inductive Reads (b : Body) : Body → Prop where
  | refl : Reads b b
  | read {b' : Body} (h : Reads b b') (n : Nat) : Reads b (b'.read n).2

variable {b b' b'' : Body} {got all : Bytes} {n fuel : Nat}

theorem Alike.refl (b : Body) : Alike b b := by
  cases b <;> first | trivial | exact Source.Alike.refl _ | exact ⟨Source.Alike.refl _, rfl⟩

theorem Alike.trans (h : Alike b b') (h' : Alike b' b'') : Alike b b'' := by
  cases b <;> cases b' <;> cases b'' <;>
    first
    | trivial
    | exact h.elim
    | exact h'.elim
    | exact Source.Alike.trans h h'
    | exact ⟨h.1.trans h'.1, h'.2.trans h.2⟩

theorem Alike.source {source : Source} (h : Alike b b') (hb : b'.source? = some source) :
    ∃ source', b.source? = some source' ∧ source'.Alike source := by
  cases b <;> cases b' <;>
    first
    | exact h.elim
    | exact ⟨_, rfl, Option.some.inj hb ▸ h⟩
    | exact ⟨_, rfl, Option.some.inj hb ▸ h.1⟩
    | exact absurd hb (by simp [source?])

theorem Alike.honest (h : Alike b b') (hb : b.Honest) : b'.Honest := by
  intro source hsource
  obtain ⟨source', hsource', halike⟩ := h.source hsource
  exact halike.honest (hb source' hsource')

theorem Alike.sound (h : Alike b b') (hb : b.Sound) : b'.Sound := by
  intro source hsource
  obtain ⟨source', hsource', halike⟩ := h.source hsource
  exact halike.sound (hb source' hsource')

/-! ### One call -/

theorem read_append_rest (b : Body) (n : Nat) :
    gained (b.read n).1 ++ (b.read n).2.rest = b.rest := by
  cases b with
  | empty => rfl
  | bytes data position mark =>
    simp only [read, gained, rest]
    rw [← List.drop_drop]
    exact List.prefix_iff_eq_append.mp (List.take_prefix n (data.drop position))
  | seekable source mark => exact Source.append_rest_of_read rfl
  | buffered replay => exact replay.read_append_rest n
  | stream source => exact Source.append_rest_of_read rfl

theorem alike_read (b : Body) (n : Nat) : b.Alike (b.read n).2 := by
  cases b with
  | empty => trivial
  | bytes data position mark => trivial
  | seekable source mark => exact Source.alike_of_read rfl
  | buffered replay => exact replay.alike_read n
  | stream source => exact Source.alike_of_read rfl

theorem Honest.rest_eq_nil (hb : b.Honest) (hn : 0 < n) (h : (b.read n).1 = .ok []) :
    b.rest = [] := by
  cases b with
  | empty => rfl
  | bytes data position mark =>
    rcases List.take_eq_nil_iff.mp (Except.ok.inj h) with hzero | hrest
    · omega
    · exact hrest
  | seekable source mark =>
    exact (hb source rfl).rest_eq_nil hn (Prod.ext h rfl)
  | buffered replay => exact Replay.rest_eq_nil_of_read (hb replay.source rfl) hn h
  | stream source => exact (hb source rfl).rest_eq_nil hn (Prod.ext h rfl)

theorem Sound.exists_ok (hb : b.Sound) (n : Nat) : ∃ got, (b.read n).1 = .ok got := by
  cases b with
  | empty => exact ⟨_, rfl⟩
  | bytes data position mark => exact ⟨_, rfl⟩
  | seekable source mark => exact (hb source rfl).exists_ok n
  | buffered replay => exact Replay.exists_ok_of_sound (hb replay.source rfl) n
  | stream source => exact (hb source rfl).exists_ok n

/-! ### Up to the end -/

theorem left_eq_length_rest (b : Body) : b.left = b.rest.length := by
  cases b with
  | empty => rfl
  | bytes data position mark => exact List.length_drop.symm
  | seekable source mark => rfl
  | buffered replay => simp [left, rest, Replay.left, Replay.rest]
  | stream source => rfl

theorem drain_eq_rest (hb : b.Honest) (hfuel : b.rest.length < fuel)
    (h : (drain fuel got b).1 = .ok all) : all = got ++ b.rest := by
  induction fuel generalizing b got with
  | zero => exact absurd hfuel (Nat.not_lt_zero _)
  | succ fuel ih =>
    have happend := b.read_append_rest 8192
    have hhonest := (b.alike_read 8192).honest hb
    have hend : (b.read 8192).1 = .ok [] → b.rest = [] := hb.rest_eq_nil (by decide)
    rw [drain] at h
    rcases hread : b.read 8192 with ⟨e | more, b'⟩
    · rw [hread] at h
      exact absurd h (by simp)
    · rw [hread] at h happend hhonest hend
      cases more with
      | nil => rw [hend rfl, List.append_nil, ← Except.ok.inj h]
      | cons byte more =>
        have hshorter : b'.rest.length < fuel := by
          rw [← happend] at hfuel
          simp only [gained, List.length_append, List.length_cons] at hfuel
          omega
        rw [ih hhonest hshorter h, ← happend, List.append_assoc]
        rfl

theorem drain_ok (hb : b.Sound) (fuel : Nat) (got : Bytes) :
    ∃ all, (drain fuel got b).1 = .ok all := by
  induction fuel generalizing b got with
  | zero => exact ⟨got, rfl⟩
  | succ fuel ih =>
    have hsound := (b.alike_read 8192).sound hb
    obtain ⟨more, hmore⟩ := hb.exists_ok 8192
    rw [drain]
    rcases hread : b.read 8192 with ⟨e | more', b'⟩
    · rw [hread] at hmore
      exact absurd hmore (by simp)
    · rw [hread] at hsound
      cases more' with
      | nil => exact ⟨got, rfl⟩
      | cons byte more' => exact ih hsound _

theorem readRemaining_eq_rest (hb : b.Honest) (h : b.readRemaining.1 = .ok all) :
    all = b.rest :=
  drain_eq_rest hb (by rw [left_eq_length_rest]; exact Nat.lt_succ_self _) h

theorem readRemaining_of_sound (hb : b.Honest) (hs : b.Sound) :
    b.readRemaining.1 = .ok b.rest := by
  obtain ⟨all, h⟩ := drain_ok hs (b.left + 1) []
  rw [readRemaining, h, readRemaining_eq_rest hb h]

/-! ### Nothing but reading -/

theorem Reads.alike (h : Reads b b') : Alike b b' := by
  induction h with
  | refl => exact .refl b
  | read _ n ih => exact ih.trans (alike_read _ n)

theorem Reads.drain (h : Reads b b') (fuel : Nat) (got : Bytes) :
    Reads b (Body.drain fuel got b').2 := by
  induction fuel generalizing b' got with
  | zero => exact h
  | succ fuel ih =>
    have hread := h.read 8192
    rw [Body.drain]
    rcases hcall : b'.read 8192 with ⟨e | more, b''⟩ <;> rw [hcall] at hread
    · exact hread
    · cases more with
      | nil => exact hread
      | cons byte more => exact ih hread _

theorem reads_readRemaining (b : Body) : Reads b b.readRemaining.2 := Reads.refl.drain _ _

theorem Reads.collect (h : Reads b b') (fuel n : Nat) (got : Bytes) :
    Reads b (Body.collect fuel n got b').2 := by
  induction fuel generalizing b' got with
  | zero => exact h
  | succ fuel ih =>
    have hread := h.read (n - got.length)
    rw [Body.collect]
    split
    · exact h
    · rcases hcall : b'.read (n - got.length) with ⟨e | more, b''⟩ <;> rw [hcall] at hread
      · exact hread
      · cases more with
        | nil => exact hread
        | cons byte more => exact ih hread _

theorem reads_readUpTo (b : Body) (n : Nat) : Reads b (b.readUpTo n).2 := Reads.refl.collect _ _ _

end Body

end ServiceCall
