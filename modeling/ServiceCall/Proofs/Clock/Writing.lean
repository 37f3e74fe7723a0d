import Mathlib.Algebra.Group.Nat.Defs
import Mathlib.Data.List.Basic
import Mathlib.Data.List.TakeWhile
import Mathlib.Data.Option.Basic
import ServiceCall.Moment.CompactDate

/-!
Dates in the compact form `20130401T040113Z`. What is written of a moment in a year of four digits
is read as that moment, and with more behind it as none.
-/

namespace ServiceCall.CompactDate

open Calendar

/-! ### Numerals -/

/-- The last digits of a number, as many as the width says. -/
def numeral : Nat → Nat → List Char
  | 0, _ => []
  | width + 1, n => numeral width (n / 10) ++ [Nat.digitChar (n % 10)]

theorem length_numeral (width n : Nat) : (numeral width n).length = width := by
  induction width generalizing n with
  | zero => rfl
  | succ width ih => simp [numeral, ih]

theorem isDigit_digitChar : ∀ n < 10, (Nat.digitChar n).isDigit = true ∧
    (Nat.digitChar n).toNat - 48 = n := by
  decide

theorem isDigit_of_mem_numeral {width n : Nat} {c : Char} (h : c ∈ numeral width n) :
    c.isDigit = true := by
  induction width generalizing n with
  | zero => exact absurd h (by simp [numeral])
  | succ width ih =>
    obtain hfront | hlast := List.mem_append.1 h
    · exact ih hfront
    · rw [List.mem_singleton.1 hlast]
      exact (isDigit_digitChar (n % 10) (Nat.mod_lt n (by decide))).1

theorem digitsValue_numeral {width n : Nat} (h : n < 10 ^ width) :
    digitsValue (numeral width n) = n := by
  induction width generalizing n with
  | zero =>
    have hzero : n = 0 := by simpa using h
    rw [hzero]
    rfl
  | succ width ih =>
    have hfront : digitsValue (numeral width (n / 10)) = n / 10 := ih (by omega)
    have hlast := (isDigit_digitChar (n % 10) (Nat.mod_lt n (by decide))).2
    rw [digitsValue] at hfront ⊢
    rw [numeral, List.foldl_append, hfront, List.foldl_cons, List.foldl_nil, hlast]
    omega

/-- As many digits as may be are read, and no more. -/
theorem digits?_numeral {width n : Nat} (hwidth : width ≠ 0) (h : n < 10 ^ width)
    (rest : List Char) : digits? width (numeral width n ++ rest) = some (n, rest) := by
  have hlength := length_numeral width n
  have htake : (numeral width n ++ rest).take width = numeral width n := by
    rw [List.take_append_of_le_length (Nat.le_of_eq hlength.symm)]
    exact List.take_of_length_le (Nat.le_of_eq hlength)
  have hdigits : (numeral width n).takeWhile Char.isDigit = numeral width n :=
    List.takeWhile_eq_self_iff.2 fun c hc => isDigit_of_mem_numeral hc
  have hdrop : (numeral width n ++ rest).drop (numeral width n).length = rest :=
    List.drop_left
  unfold digits?
  rw [htake, hdigits]
  split
  · next hnil =>
    rw [hnil] at hlength
    exact absurd hlength.symm hwidth
  · rw [digitsValue_numeral h, hdrop]

/-- A digit is neither a blank nor a sign. -/
theorem of_isDigit {c : Char} (h : c.isDigit = true) : isBlank c = false ∧ c ≠ '-' ∧ c ≠ '+' := by
  have hrange : 48 ≤ c.toNat ∧ c.toNat ≤ 57 := by
    simpa [Char.isDigit, UInt32.le_iff_toNat_le] using h
  refine ⟨?_, ?_, ?_⟩
  · simp only [isBlank, Bool.or_eq_false_iff, Bool.and_eq_false_iff, decide_eq_false_iff_not]
    omega
  · rintro rfl
    exact absurd h (by decide)
  · rintro rfl
    exact absurd h (by decide)

theorem exists_numeral_cons {width : Nat} (h : width ≠ 0) (n : Nat) :
    ∃ c cs, numeral width n = c :: cs ∧ c.isDigit = true := by
  cases hnumeral : numeral width n with
  | nil =>
    have hlength := length_numeral width n
    rw [hnumeral] at hlength
    exact absurd hlength.symm h
  | cons c cs => exact ⟨c, cs, rfl, isDigit_of_mem_numeral (by rw [hnumeral]; simp)⟩

theorem dropWhile_isBlank_numeral {width : Nat} (h : width ≠ 0) (n : Nat) (rest : List Char) :
    (numeral width n ++ rest).dropWhile isBlank = numeral width n ++ rest := by
  obtain ⟨c, cs, hnumeral, hdigit⟩ := exists_numeral_cons h n
  rw [hnumeral, List.cons_append, List.dropWhile_cons_of_neg (by simp [of_isDigit hdigit])]

theorem number?_numeral {width n : Nat} (hwidth : width ≠ 0) (h : n < 10 ^ width)
    (rest : List Char) : number? width (numeral width n ++ rest) = some (n, rest) := by
  rw [number?, dropWhile_isBlank_numeral hwidth, digits?_numeral hwidth h]

/-- Four digits without a sign are a year. -/
theorem year?_numeral {n : Nat} (h : n < 10 ^ 4) (rest : List Char) :
    year? (numeral 4 n ++ rest) = some ((n : Int), rest) := by
  obtain ⟨c, cs, hnumeral, hdigit⟩ := exists_numeral_cons (by decide : 4 ≠ 0) n
  have hread := digits?_numeral (by decide) h rest
  unfold year?
  rw [dropWhile_isBlank_numeral (by decide)]
  rw [hnumeral] at hread ⊢
  split
  · next heq => exact absurd (List.cons.inj heq).1 (of_isDigit hdigit).2.1
  · next heq => exact absurd (List.cons.inj heq).1 (of_isDigit hdigit).2.2
  · rw [hread, Option.map_some]

/-! ### Moments -/

/-- A day of the calendar in a year of four digits, and a time of the day; a minute may have a
sixtieth second. -/
structure Writable (d : Date) (t : Time) : Prop where
  year : 0 ≤ d.year ∧ d.year ≤ 9999
  date : d.isValid = true
  hour : t.hour < 24
  minute : t.minute < 60
  second : t.second ≤ 60

/-- The moment without a blank or a sign. -/
def text (d : Date) (t : Time) : List Char :=
  numeral 4 d.year.toNat ++ (numeral 2 d.month ++ (numeral 2 d.day ++ 'T' ::
    (numeral 2 t.hour ++ (numeral 2 t.minute ++ (numeral 2 t.second ++ ['Z'])))))

theorem blank_notMem_text (d : Date) (t : Time) : ' ' ∉ text d t := by
  intro h
  obtain ⟨width, n, hn⟩ : ∃ width n, ' ' ∈ numeral width n := by
    simp only [text, List.mem_append, List.mem_cons, List.not_mem_nil, or_false] at h
    rcases h with h | h | h | h | h | h | h | h
    all_goals first | exact ⟨_, _, h⟩ | exact absurd h (by decide)
  exact absurd (isDigit_of_mem_numeral hn) (by decide)

/-- No year has more than twelve months, and no month more than 31 days. -/
theorem bounds_of_isValid {d : Date} (h : d.isValid = true) : d.month ≤ 12 ∧ d.day ≤ 31 := by
  unfold Date.isValid at h
  split at h
  · next length hlength =>
    have hmonth : d.month - 1 < 12 := (List.getElem?_eq_some_iff.1 hlength).1
    have hmem := List.mem_of_getElem? hlength
    have hdays : length ≤ 31 := by
      simp only [monthLengths, List.mem_cons, List.not_mem_nil, or_false] at hmem
      split at hmem <;> omega
    simp only [Bool.and_eq_true, decide_eq_true_eq] at h
    omega
  · cases h

/-- Nothing may stand behind a moment. -/
theorem read?_text_append {d : Date} {t : Time} (h : Writable d t) (more : List Char) :
    read? (text d t ++ more) = if more = [] then some (d, t) else none := by
  obtain ⟨hmin, hmax⟩ := h.year
  obtain ⟨hmonth, hday⟩ := bounds_of_isValid h.date
  have hhour := h.hour
  have hminute := h.minute
  have hsecond := h.second
  have hyear : ((d.year.toNat : Nat) : Int) = d.year := Int.toNat_of_nonneg hmin
  have hnumber : ∀ n < 10 ^ 2, ∀ rest, number? 2 (numeral 2 n ++ rest) = some (n, rest) :=
    fun n hn rest => number?_numeral (by decide) hn rest
  simp only [text, List.append_assoc, List.cons_append, List.nil_append]
  unfold read?
  simp only [Option.bind_eq_bind, Option.bind_some, letter?, if_true,
    year?_numeral (show d.year.toNat < 10 ^ 4 by omega), hnumber d.month (by omega),
    hnumber d.day (by omega), hnumber t.hour (by omega), hnumber t.minute (by omega),
    hnumber t.second (by omega), hyear]
  cases more with
  | nil => rfl
  | cons c more => rfl

theorem seconds?_text_append {d : Date} {t : Time} (h : Writable d t) (more : List Char) :
    seconds? (text d t ++ more) = if more = [] then some (Calendar.seconds d t) else none := by
  obtain ⟨hmin, hmax⟩ := h.year
  have hyear : isYear d.year = true := by
    simp only [isYear, Bool.and_eq_true, decide_eq_true_eq]
    omega
  simp only [seconds?, read?_text_append h]
  split
  · next heq =>
    split at heq
    · next hmore =>
      obtain ⟨rfl, rfl⟩ := Prod.mk.inj (Option.some.inj heq)
      simp [hyear, h.date, h.hour, h.minute, h.second, hmore]
    · cases heq
  · next heq =>
    split at heq
    · cases heq
    · next hmore => rw [if_neg hmore]

end ServiceCall.CompactDate
