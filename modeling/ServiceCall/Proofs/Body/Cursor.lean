import ServiceCall.Proofs.Body.Reading

/-!
A buffered stream as a cursor. What it keeps, and where it stands in that, tell a place in the
stream, a mark, and how far the stream has been read. Whatever is asked of the stream, in whatever
order, it answers as the cursor does.
-/

namespace ServiceCall

/-! ### Calls to a source -/

namespace Source

variable {s s' : Source} {n : Nat} {got : Bytes}

theorem length_le_of_read (h : s.read n = (.ok got, s')) : got.length ≤ n := by
  unfold read at h
  split at h
  · obtain rfl := Except.ok.inj (Prod.mk.inj h).1
    exact Nat.zero_le n
  · split at h
    · exact absurd (Prod.mk.inj h).1 (by simp)
    · obtain rfl := Except.ok.inj (Prod.mk.inj h).1
      exact Nat.le_trans (List.length_take_le _ _) (Nat.min_le_left _ _)

/-- The failure of a call is one that the source has chosen. -/
theorem fault_of_read {e : IoError} (h : s.read n = (.error e, s')) :
    s.serve s.calls s.position = .fail e := by
  unfold read at h
  split at h
  · exact absurd (Prod.mk.inj h).1 (by simp)
  · split at h
    · next hserve => rw [hserve, Except.error.inj (Prod.mk.inj h).1]
    · exact absurd (Prod.mk.inj h).1 (by simp)

end Source

/-! ### Operations on a payload -/

namespace Body

/-- What the holder of a payload may ask of it. -/
inductive Operation where
  | read (n : Nat)
  | mark
  | reset

/-- A mark or a reset hands over nothing, and one that fails leaves the payload as it is. -/
def perform (b : Body) : Operation → Except IoError Bytes × Body
  | .read n => b.read n
  | .mark =>
    match b.mark with
    | .ok marked => (.ok [], marked)
    | .error e => (.error e, b)
  | .reset =>
    match b.reset with
    | .ok rewound => (.ok [], rewound)
    | .error e => (.error e, b)

/-- The answers to a sequence of operations, and the payload after them. -/
def performAll (b : Body) : List Operation → List (Except IoError Bytes) × Body
  | [] => ([], b)
  | operation :: operations =>
    let later := (b.perform operation).2.performAll operations
    ((b.perform operation).1 :: later.1, later.2)

end Body

/-! ### The cursor -/

/-- A place in a stream, the mark, and how far the stream has been read. -/
structure Cursor where
  position : Nat := 0
  mark : Option Nat := none
  furthest : Nat := 0

namespace Cursor

variable (source : Source) (limit : Nat)

/-- The answers that a cursor in what is left of the source may give, and where they leave it. A
read past what has been read before is up to the source; all else is determined. -/
inductive Answers : Body.Operation → Except IoError Bytes → Cursor → Cursor → Prop where
  | read (c : Cursor) {n : Nat} {got : Bytes} (length_le : got.length ≤ n)
      (next : got <+: source.rest.drop c.position)
      (ending : source.Honest → got = [] → n = 0 ∨ source.rest.length ≤ c.position) :
      Answers (.read n) (.ok got) c
        { c with
          position := c.position + got.length
          furthest := max c.furthest (c.position + got.length) }
  | fail (c : Cursor) {n : Nat} {e : IoError} (ahead : c.position = c.furthest)
      (fault : ∃ calls position, source.serve calls position = .fail e) :
      Answers (.read n) (.error e) c c
  | mark (c : Cursor) : Answers .mark (.ok []) c { c with mark := some c.position }
  | reset (c : Cursor) {m : Nat} (marked : c.mark = some m) (within : c.furthest - m ≤ limit) :
      Answers .reset (.ok []) c { c with position := m }
  | lost (c : Cursor) {e : IoError} (kind : e.kind = .invalidInput)
      (beyond : ∀ m, c.mark = some m → limit < c.furthest - m) : Answers .reset (.error e) c c

/-- The answers that a cursor may give one after the other. -/
inductive Follows :
    List Body.Operation → List (Except IoError Bytes) → Cursor → Cursor → Prop where
  | nil (c : Cursor) : Follows [] [] c c
  | cons {operation operations answer answers} {c c' c'' : Cursor}
      (first : Answers source limit operation answer c c')
      (later : Follows operations answers c' c'') :
      Follows (operation :: operations) (answer :: answers) c c''

/-! ### The cursor of a buffered stream -/

/-- Behind a mark that it can go back to, the stream keeps all that has been read since; otherwise
it keeps nothing, and stands where it has been read to. -/
inductive Stands (c : Cursor) (r : Replay) : Prop where
  | marked (m : Nat) (valid : r.markValid = true) (mark : c.mark = some m)
      (kept : r.kept ++ r.source.rest = source.rest.drop m)
      (furthest : c.furthest = m + r.kept.length) (room : r.kept.length ≤ limit)
      (position : c.position = m + r.position) (inside : r.position ≤ r.kept.length)
  | unmarked (invalid : r.markValid = false) (kept : r.kept = []) (start : r.position = 0)
      (position : c.position = c.furthest)
      (beyond : ∀ m, c.mark = some m → limit < c.furthest - m)

/-- The cursor tells where the stream stands. -/
structure Shows (c : Cursor) (r : Replay) : Prop where
  alike : source.Alike r.source
  limit_eq : r.limit = limit
  ahead : r.source.rest = source.rest.drop c.furthest
  stands : Stands source limit c r

variable {source limit} {c : Cursor} {r : Replay} {s : Source} {n : Nat} {got : Bytes}

theorem shows_start (source : Source) (limit : Nat) : Shows source limit {} { source, limit } where
  alike := .refl source
  limit_eq := rfl
  ahead := rfl
  stands := .unmarked rfl rfl rfl rfl (fun _ h => absurd h (by simp))

theorem Stands.length_kept (h : Stands source limit c r) : r.kept.length ≤ limit := by
  cases h with
  | marked _ _ _ _ _ room => exact room
  | unmarked _ kept => simp [kept]

/-- Once all that is kept has been read, the next byte is one that nobody has read. -/
theorem Stands.position_eq (h : Stands source limit c r) (hend : r.kept.length ≤ r.position) :
    c.position = c.furthest := by
  cases h with
  | marked m _ _ _ furthest _ position inside => omega
  | unmarked _ _ _ position => exact position

/-! ### Reading -/

/-- What is read again is what was read before. -/
theorem Stands.prefix_of_kept (h : Stands source limit c r) :
    r.kept.drop r.position <+: source.rest.drop c.position := by
  cases h with
  | marked m _ _ kept _ _ position inside =>
    rw [position, ← List.drop_drop, ← kept, List.drop_append_of_le_length inside]
    exact List.prefix_append _ _
  | unmarked _ kept => simp [kept]

theorem Shows.read_kept (h : Shows source limit c r) (hlt : r.position < r.kept.length) (n : Nat) :
    ∃ c', Answers source limit (.read n) (.ok ((r.kept.drop r.position).take n)) c c' ∧
      Shows source limit c'
        { r with position := r.position + ((r.kept.drop r.position).take n).length } := by
  have hlength : ((r.kept.drop r.position).take n).length ≤ r.kept.length - r.position := by
    simp only [List.length_take, List.length_drop]
    exact Nat.min_le_right _ _
  refine ⟨_, .read c (List.length_take_le _ _)
    ((List.take_prefix _ _).trans h.stands.prefix_of_kept) ?_, ?_⟩
  · intro _ hnil
    rcases List.take_eq_nil_iff.mp hnil with hzero | hkept
    · exact .inl hzero
    · have := List.drop_eq_nil_iff.mp hkept
      omega
  · cases h.stands with
    | unmarked _ kept => simp [kept] at hlt
    | marked m valid mark kept furthest room position inside =>
      have hfurthest : max c.furthest
          (c.position + ((r.kept.drop r.position).take n).length) = c.furthest := by omega
      rw [hfurthest]
      exact ⟨h.alike, h.limit_eq, h.ahead, .marked m valid mark kept furthest room
        (by simp only [position, Nat.add_assoc]) (by simp only; omega)⟩

theorem Shows.read_fails {e : IoError} (h : Shows source limit c r)
    (hend : r.kept.length ≤ r.position) (hread : r.source.read n = (.error e, s)) :
    Answers source limit (.read n) (.error e) c c ∧ Shows source limit c { r with source := s } := by
  have hrest : s.rest = r.source.rest := Source.append_rest_of_read hread
  refine ⟨.fail c (h.stands.position_eq hend) ?_, h.alike.trans (Source.alike_of_read hread),
    h.limit_eq, hrest.trans h.ahead, ?_⟩
  · exact ⟨_, _, h.alike.serve ▸ Source.fault_of_read hread⟩
  · cases h.stands with
    | marked m valid mark kept furthest room position inside =>
      exact .marked m valid mark (by simpa only [hrest] using kept) furthest room position inside
    | unmarked invalid kept start position beyond =>
      exact .unmarked invalid kept start position beyond

/-- Reading on in the source moves the cursor past all that has been read. -/
theorem Shows.read_source (h : Shows source limit c r) (hend : r.kept.length ≤ r.position)
    (hread : r.source.read n = (.ok got, s)) :
    Answers source limit (.read n) (.ok got) c
        { c with position := c.furthest + got.length, furthest := c.furthest + got.length } ∧
      source.Alike s ∧ s.rest = source.rest.drop (c.furthest + got.length) := by
  have hposition := h.stands.position_eq hend
  have hrest : got ++ s.rest = source.rest.drop c.furthest :=
    (Source.append_rest_of_read hread).trans h.ahead
  refine ⟨?_, h.alike.trans (Source.alike_of_read hread), ?_⟩
  · have hread' : Answers source limit (.read n) (.ok got) c _ :=
      .read c (Source.length_le_of_read hread) ⟨s.rest, hposition ▸ hrest⟩ (by
        rintro hhonest rfl
        refine (Nat.eq_zero_or_pos n).imp_right fun hn => ?_
        have hnil := (h.alike.honest hhonest).rest_eq_nil hn hread
        rw [h.ahead] at hnil
        exact hposition ▸ List.drop_eq_nil_iff.mp hnil)
    rwa [hposition, Nat.max_eq_right (Nat.le_add_right _ _)] at hread'
  · rw [← List.drop_drop, ← hrest, List.drop_left]

theorem Shows.read (h : Shows source limit c r) (n : Nat) :
    ∃ c', Answers source limit (.read n) (r.read n).1 c c' ∧ Shows source limit c' (r.read n).2 := by
  refine Replay.read_cases (P := fun answer => ∃ c',
    Answers source limit (.read n) answer.1 c c' ∧ Shows source limit c' answer.2) r n ?_ ?_ ?_ ?_ ?_
  · exact fun hlt => h.read_kept hlt n
  · exact fun e s hend hread => ⟨c, h.read_fails hend hread⟩
  all_goals
    intro got s hend hread
    obtain ⟨hanswer, halike, hahead⟩ := h.read_source hend hread
  · intro invalid
    refine ⟨_, hanswer, halike, h.limit_eq, hahead, ?_⟩
    cases h.stands with
    | marked m valid => exact absurd (invalid.symm.trans valid) Bool.false_ne_true
    | unmarked _ kept start position beyond =>
      exact .unmarked invalid kept start rfl fun m hm => by have := beyond m hm; simp only; omega
  · intro valid hlimit
    refine ⟨_, hanswer, halike, h.limit_eq, hahead, .unmarked rfl rfl rfl rfl fun m hm => ?_⟩
    cases h.stands with
    | unmarked invalid => exact absurd (invalid.symm.trans valid) Bool.false_ne_true
    | marked m' _ mark _ furthest =>
      obtain rfl : m' = m := Option.some.inj (mark.symm.trans hm)
      have := h.limit_eq
      simp only
      omega
  · intro valid hlimit
    refine ⟨_, hanswer, halike, h.limit_eq, hahead, ?_⟩
    cases h.stands with
    | unmarked invalid => exact absurd (invalid.symm.trans valid) Bool.false_ne_true
    | marked m _ mark kept furthest =>
      refine .marked m valid mark ?_ ?_ ?_ ?_ (Nat.le_refl _)
      · rw [List.append_assoc, ← kept, ← Source.append_rest_of_read hread]
        rfl
      · simp only [List.length_append, furthest, Nat.add_assoc]
      · simpa only [List.length_append, ← h.limit_eq] using hlimit
      · simp only [List.length_append, furthest, Nat.add_assoc]

/-! ### Marks -/

theorem Shows.mark (h : Shows source limit c r) :
    Shows source limit { c with mark := some c.position } r.mark := by
  refine ⟨h.alike, h.limit_eq, h.ahead, ?_⟩
  cases h.stands with
  | marked m _ _ kept furthest room position inside =>
    refine .marked c.position rfl rfl ?_ ?_ ?_ rfl (Nat.zero_le _)
    · rw [position, ← List.drop_drop, ← kept, List.drop_append_of_le_length inside]
      rfl
    · simp only [Replay.mark, List.length_drop]
      omega
    · simp only [Replay.mark, List.length_drop]
      omega
  | unmarked _ kept _ position =>
    refine .marked c.position rfl rfl ?_ ?_ ?_ rfl (Nat.zero_le _)
    · simp [Replay.mark, kept, h.ahead, position]
    · simp [Replay.mark, kept, position]
    · simp [Replay.mark, kept]

theorem Shows.reset (h : Shows source limit c r) :
    (∃ m r', r.reset = .ok r' ∧ c.mark = some m ∧ c.furthest - m ≤ limit ∧
      Shows source limit { c with position := m } r') ∨
    (∃ e, r.reset = .error e ∧ e.kind = .invalidInput ∧
      ∀ m, c.mark = some m → limit < c.furthest - m) := by
  rw [Replay.reset]
  cases h.stands with
  | marked m valid mark kept furthest room =>
    rw [if_pos valid]
    exact .inl ⟨m, _, rfl, mark, by omega, h.alike, h.limit_eq, h.ahead,
      .marked m valid mark kept furthest room rfl (Nat.zero_le _)⟩
  | unmarked invalid _ _ _ beyond =>
    rw [if_neg (by simp [invalid])]
    exact .inr ⟨_, rfl, rfl, beyond⟩

/-! ### Any sequence of operations -/

theorem Shows.perform (h : Shows source limit c r) (operation : Body.Operation) :
    ∃ c' r', ((Body.buffered r).perform operation).2 = .buffered r' ∧
      Answers source limit operation ((Body.buffered r).perform operation).1 c c' ∧
      Shows source limit c' r' := by
  cases operation with
  | read n =>
    obtain ⟨c', hanswer, hshows⟩ := h.read n
    exact ⟨c', _, rfl, hanswer, hshows⟩
  | mark => exact ⟨_, _, rfl, .mark c, h.mark⟩
  | reset =>
    rcases h.reset with ⟨m, r', hreset, hmark, hwithin, hshows⟩ | ⟨e, hreset, hkind, hbeyond⟩
    · refine ⟨_, r', ?_, ?_, hshows⟩
      · simp only [Body.perform, Body.reset, hreset, Except.map]
      · simp only [Body.perform, Body.reset, hreset, Except.map]
        exact .reset c hmark hwithin
    · refine ⟨c, r, ?_, ?_, h⟩
      · simp only [Body.perform, Body.reset, hreset, Except.map]
      · simp only [Body.perform, Body.reset, hreset, Except.map]
        exact .lost c hkind hbeyond

theorem Shows.performAll (h : Shows source limit c r) (operations : List Body.Operation) :
    ∃ c' r', ((Body.buffered r).performAll operations).2 = .buffered r' ∧
      Follows source limit operations ((Body.buffered r).performAll operations).1 c c' ∧
      Shows source limit c' r' := by
  induction operations generalizing c r with
  | nil => exact ⟨c, r, rfl, .nil c, h⟩
  | cons operation operations ih =>
    obtain ⟨c', r', hbody, hanswer, hshows⟩ := h.perform operation
    obtain ⟨c'', r'', hbody', hfollows, hshows'⟩ := ih hshows
    rw [← hbody] at hbody' hfollows
    exact ⟨c'', r'', hbody', .cons hanswer hfollows, hshows'⟩

end Cursor

namespace Body

/-- A buffered stream answers every sequence of operations as a cursor in its source does, and never
keeps more than its limit. -/
theorem buffered_follows_cursor (source : Source) (limit : Nat)
    (operations : List Operation) :
    ∃ c r, ((buffered { source, limit }).performAll operations).2 = buffered r ∧
      Cursor.Follows source limit operations
        ((buffered { source, limit }).performAll operations).1 {} c ∧
      r.kept.length ≤ limit := by
  obtain ⟨c, r, hbody, hfollows, hshows⟩ :=
    (Cursor.shows_start source limit).performAll operations
  exact ⟨c, r, hbody, hfollows, hshows.stands.length_kept⟩

-- A mark set in the middle of what is read again, and lost with the fifth byte after it.
example :
    (((buffered { source := .ofBytes [1, 2, 3, 4, 5, 6, 7, 8], limit := 4 }).performAll
      [.reset, .mark, .read 3, .reset, .read 2, .mark, .read 2, .read 3, .reset, .read 2,
        .read 2, .read 1, .reset, .read 1]).1.map Except.toOption) =
      [none, some [], some [1, 2, 3], some [], some [1, 2], some [], some [3], some [4, 5, 6],
        some [], some [3, 4], some [5, 6], some [7], none, some [8]] := by
  rfl

end Body

end ServiceCall
