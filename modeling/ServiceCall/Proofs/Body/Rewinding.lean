import ServiceCall.Proofs.Body.Reading

/-!
Rewinding of payloads. A reset puts back what has been read since the mark, unless a buffered
stream has handed over more than it was to keep.
-/

namespace ServiceCall

/-! ### Buffered streams -/

namespace Replay

/-- More than the limit has been read since the mark was set before `start`. -/
structure Overread (start : Bytes) (r : Replay) : Prop where
  invalid : r.markValid = false
  kept : r.kept = []
  position : r.position = 0
  taken : ∃ taken, taken ++ r.source.rest = start ∧ r.limit < taken.length

/-- The mark is set before `start`, or has been lost by reading. -/
inductive Rewinds (start : Bytes) (r : Replay) : Prop where
  | kept (valid : r.markValid = true) (h : r.kept ++ r.source.rest = start)
  | lost (h : r.Overread start)

variable {start : Bytes} {r : Replay}

theorem Overread.read (h : r.Overread start) (n : Nat) : (r.read n).2.Overread start := by
  obtain ⟨taken, rfl, hlimit⟩ := h.taken
  refine read_cases (P := fun answer => answer.2.Overread _) r n ?_ ?_ ?_ ?_ ?_
  · intro hlt
    rw [h.kept, h.position] at hlt
    exact absurd hlt (Nat.lt_irrefl _)
  · intro e source _ hread
    refine ⟨h.invalid, h.kept, h.position, taken, ?_, hlimit⟩
    rw [← Source.append_rest_of_read hread]
    rfl
  · intro got source _ hread _
    refine ⟨h.invalid, h.kept, h.position, taken ++ got, ?_, ?_⟩
    · rw [← Source.append_rest_of_read hread, List.append_assoc]
      rfl
    · rw [List.length_append]
      exact Nat.lt_add_right _ hlimit
  · intro got source _ _ hvalid
    exact absurd (h.invalid.symm.trans hvalid) Bool.false_ne_true
  · intro got source _ _ hvalid
    exact absurd (h.invalid.symm.trans hvalid) Bool.false_ne_true

theorem Rewinds.read (h : r.Rewinds start) (n : Nat) : (r.read n).2.Rewinds start := by
  cases h with
  | lost h => exact .lost (h.read n)
  | kept hvalid hstart =>
    refine read_cases (P := fun answer => answer.2.Rewinds start) r n ?_ ?_ ?_ ?_ ?_
    · exact fun _ => .kept hvalid hstart
    · intro e source _ hread
      refine .kept hvalid ?_
      rw [← hstart, ← Source.append_rest_of_read hread]
      rfl
    · intro got source _ _ hinvalid
      exact absurd (hinvalid.symm.trans hvalid) Bool.false_ne_true
    · intro got source _ hread _ hlimit
      refine .lost ⟨rfl, rfl, rfl, r.kept ++ got, ?_, by rwa [List.length_append]⟩
      rw [← hstart, ← Source.append_rest_of_read hread, List.append_assoc]
      rfl
    · intro got source _ hread _ _
      refine .kept hvalid ?_
      rw [← hstart, ← Source.append_rest_of_read hread, List.append_assoc]
      rfl

end Replay

/-! ### Payloads -/

namespace Body

/-- The mark is set before `start`, or has been lost by reading. -/
def Rewinds (start : Bytes) : Body → Prop
  | .empty => start = []
  | .bytes data _ mark => data.drop mark = start
  | .seekable source mark => source.data.drop mark = start
  | .buffered replay => replay.Rewinds start
  | .stream _ => False

/-- All of `start` is left to read, and it can be read again. -/
structure Fresh (start : Bytes) (b : Body) : Prop where
  rest : b.rest = start
  rewinds : b.Rewinds start

/-- So much of a buffered stream has been read that it cannot go back. -/
inductive Overread (start : Bytes) : Body → Prop where
  | buffered {replay : Replay} (h : replay.Overread start) : Overread start (.buffered replay)

/-- The source of the body can always be asked for its position and sought. -/
def Steady : Body → Prop
  | .seekable source _ => source.seekError = none ∧ source.positionError = none
  | _ => True

variable {b b' : Body} {start : Bytes} {e : IoError}

theorem Alike.steady (h : Alike b b') (hs : b.Steady) : b'.Steady := by
  cases b <;> cases b' <;>
    first
    | trivial
    | exact h.elim
    | exact ⟨h.seekError.trans hs.1, h.positionError.trans hs.2⟩

theorem Alike.isRemarked (h : Alike b b') : b'.isRemarked = b.isRemarked := by
  cases b <;> cases b' <;> first | rfl | exact h.elim

theorem Alike.isRepeatable (h : Alike b b') : b'.isRepeatable = b.isRepeatable := by
  cases b <;> cases b' <;> first | rfl | exact h.elim

/-! ### Reading -/

theorem Rewinds.read (h : b.Rewinds start) (n : Nat) : (b.read n).2.Rewinds start := by
  cases b with
  | empty => exact h
  | bytes data position mark => exact h
  | seekable source mark =>
    have halike : source.Alike (source.read n).2 := Source.alike_of_read rfl
    exact (congrArg (List.drop mark) halike.data).trans h
  | buffered replay => exact Replay.Rewinds.read h n
  | stream source => exact h

theorem Reads.rewinds (h : Reads b b') (hr : b.Rewinds start) : b'.Rewinds start := by
  induction h with
  | refl => exact hr
  | read _ n ih => exact ih.read n

/-! ### Setting the mark -/

theorem fresh_of_mark (hrep : b.isRepeatable = true) (h : b.mark = .ok b') :
    b.Alike b' ∧ b'.Fresh b.rest := by
  cases b with
  | empty =>
    obtain rfl := Except.ok.inj h
    exact ⟨trivial, rfl, rfl⟩
  | bytes data position mark =>
    obtain rfl := Except.ok.inj h
    exact ⟨trivial, rfl, rfl⟩
  | seekable source mark =>
    rw [Body.mark, Source.tell] at h
    split at h
    · exact absurd h (by simp [Except.map])
    · obtain rfl := Except.ok.inj h
      exact ⟨Source.Alike.refl source, rfl, rfl⟩
  | buffered replay =>
    obtain rfl := Except.ok.inj h
    exact ⟨⟨Source.Alike.refl _, rfl⟩, rfl, .kept rfl rfl⟩
  | stream source => exact absurd hrep Bool.false_ne_true

theorem not_steady_of_mark_error (h : b.mark = .error e) : ¬ b.Steady := by
  cases b with
  | seekable source mark =>
    intro hs
    rw [Body.mark, Source.tell, hs.2] at h
    exact absurd h (by simp [Except.map])
  | _ => exact absurd h (by simp [Body.mark])

/-! ### Going back to it -/

theorem fresh_of_reset (hr : b.Rewinds start) (h : b.reset = .ok b') :
    b.Alike b' ∧ b'.Fresh start := by
  cases b with
  | empty =>
    obtain rfl := Except.ok.inj h
    exact ⟨trivial, Eq.symm hr, hr⟩
  | bytes data position mark =>
    obtain rfl := Except.ok.inj h
    exact ⟨trivial, hr, hr⟩
  | seekable source mark =>
    rw [Body.reset, Source.seek] at h
    split at h
    · exact absurd h (by simp [Except.map])
    · obtain rfl := Except.ok.inj h
      exact ⟨⟨rfl, rfl, rfl, rfl⟩, hr, hr⟩
  | buffered replay =>
    rw [Body.reset, Replay.reset] at h
    split at h
    · next hvalid =>
      obtain rfl := Except.ok.inj h
      cases hr with
      | kept _ hstart => exact ⟨⟨Source.Alike.refl _, rfl⟩, hstart, .kept hvalid hstart⟩
      | lost hlost => exact absurd (hlost.invalid.symm.trans hvalid) Bool.false_ne_true
    · exact absurd h (by simp [Except.map])
  | stream source => exact hr.elim

theorem reset_of_overread (h : b.Overread start) : ∃ e, b.reset = .error e := by
  cases h with
  | @buffered replay h =>
    refine ⟨replay.lostMark, ?_⟩
    rw [Body.reset, Replay.reset, if_neg (by simp [h.invalid])]
    rfl

theorem overread_of_reset_error (hr : b.Rewinds start) (hs : b.Steady) (h : b.reset = .error e) :
    b.Overread start := by
  cases b with
  | seekable source mark =>
    rw [Body.reset, Source.seek, hs.1] at h
    exact absurd h (by simp [Except.map])
  | buffered replay =>
    cases hr with
    | lost hlost => exact .buffered hlost
    | kept hvalid _ =>
      rw [Body.reset, Replay.reset, if_pos hvalid] at h
      exact absurd h (by simp [Except.map])
  | _ => exact absurd h (by simp [Body.reset])

/-- What has been taken of a stream that cannot go back is more than its limit. -/
theorem Overread.exists_taken (h : b'.Overread start) (halike : b.Alike b') :
    ∃ replay taken, b = .buffered replay ∧ replay.limit < taken.length ∧
      taken ++ b'.rest = start := by
  cases h with
  | @buffered replay' h =>
    obtain ⟨taken, htaken, hlimit⟩ := h.taken
    cases b with
    | buffered replay =>
      refine ⟨replay, taken, rfl, by rwa [← halike.2], ?_⟩
      rw [rest, Replay.rest, h.kept, List.drop_nil, List.nil_append, htaken]
    | _ => exact halike.elim

end Body

end ServiceCall
