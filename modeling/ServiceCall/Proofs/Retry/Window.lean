import Mathlib.Algebra.Order.Ring.Nat
import Mathlib.Order.MinMax
import ServiceCall.Retry.Policy

/-!
Windows of pauses. The longest pause doubles with every attempt until it reaches the cap, and no
number on the way there leaves its 64 bits. What is drawn are the whole milliseconds up to the
longest pause, every one of them.
-/

namespace ServiceCall

/-! ### Lengths of time -/

namespace Duration

theorem nanos_injective {a b : Duration} (h : a.nanos = b.nanos) : a = b := by
  cases a
  cases b
  exact congrArg Duration.mk h

instance : LinearOrder Duration where
  le_refl a := Nat.le_refl a.nanos
  le_trans _ _ _ h h' := Nat.le_trans h h'
  lt_iff_le_not_ge _ _ := Nat.lt_iff_le_and_not_ge
  le_antisymm _ _ h h' := nanos_injective (Nat.le_antisymm h h')
  le_total a b := Nat.le_total a.nanos b.nanos
  toDecidableLE := inferInstance
  min_def _ _ := rfl
  max_def _ _ := rfl

theorem zero_le (d : Duration) : zero ≤ d := Nat.zero_le d.nanos

theorem ofMillis_mono : Monotone ofMillis := fun _ _ h => Nat.mul_le_mul_right 1000000 h

theorem ofMillis_min (m n : Nat) : ofMillis (min m n) = min (ofMillis m) (ofMillis n) :=
  ofMillis_mono.map_min

@[simp]
theorem millis_ofMillis (n : Nat) : (ofMillis n).millis = n := Nat.mul_div_cancel n (by decide)

theorem millis_mono : Monotone millis := fun _ _ h => Nat.div_le_div_right h

theorem ofMillis_le_iff {n : Nat} {d : Duration} : ofMillis n ≤ d ↔ n ≤ d.millis :=
  (Nat.le_div_iff_mul_le (by decide)).symm

end Duration

namespace Backoff

open Duration

variable {b : Nat} {cap : Duration}

/-! ### Longest pauses -/

theorem ceiling_zero (base cap : Duration) : ceiling 0 base cap = .zero := if_pos rfl

/-- The product is cut where 64 bits end. -/
theorem ceiling_succ_eq (n : Nat) (base cap : Duration) :
    ceiling (n + 1) base cap =
      min (.ofMillis (min (base.millis % (maxCount + 1) * 2 ^ min n 30) maxCount)) cap := by
  rw [ceiling, if_neg (Nat.succ_ne_zero n)]
  rfl

theorem ceiling_le_cap (n : Nat) (base cap : Duration) : ceiling n base cap ≤ cap := by
  cases n with
  | zero => exact ceiling_zero base cap ▸ zero_le cap
  | succ n => exact ceiling_succ_eq n base cap ▸ min_le_right _ _

theorem ceiling_mono (base cap : Duration) {m n : Nat} (h : m ≤ n) :
    ceiling m base cap ≤ ceiling n base cap := by
  cases m with
  | zero => exact ceiling_zero base cap ▸ zero_le _
  | succ m =>
    obtain ⟨n, rfl⟩ := Nat.exists_eq_add_of_lt h
    have hpow : 2 ^ min m 30 ≤ 2 ^ min (m + n) 30 := Nat.pow_le_pow_right (by decide) (by omega)
    have hproduct := Nat.mul_le_mul_left (base.millis % (maxCount + 1)) hpow
    rw [ceiling_succ_eq, ceiling_succ_eq]
    exact min_le_min_right cap (ofMillis_mono (min_le_min_right maxCount hproduct))

/-- The milliseconds of a longest pause need no more than 64 bits. -/
theorem millis_ceiling_le (n : Nat) (base cap : Duration) :
    (ceiling n base cap).millis ≤ maxCount := by
  cases n with
  | zero =>
    rw [ceiling_zero]
    exact Nat.zero_le _
  | succ n =>
    rw [ceiling_succ_eq]
    refine (millis_mono (min_le_left _ _)).trans ?_
    rw [millis_ofMillis]
    exact min_le_right _ _

/-- Below a cap that 64 bits hold nobody sees that the product is cut. -/
theorem ceiling_succ (hb : b ≤ maxCount) (hcap : cap ≤ .ofMillis maxCount) (n : Nat) :
    ceiling (n + 1) (.ofMillis b) cap = min (.ofMillis (b * 2 ^ min n 30)) cap := by
  rw [ceiling_succ_eq, millis_ofMillis, Nat.mod_eq_of_lt (Nat.lt_succ_of_le hb), ofMillis_min,
    min_assoc, min_eq_right hcap]

/-- Below a cap that is reached within thirty attempts nobody sees that the exponent is cut. -/
theorem ceiling_succ_of_reached (hb : b ≤ maxCount) (hcap : cap ≤ .ofMillis maxCount)
    (hreached : cap ≤ .ofMillis (b * 2 ^ 30)) (n : Nat) :
    ceiling (n + 1) (.ofMillis b) cap = min (.ofMillis (b * 2 ^ n)) cap := by
  rw [ceiling_succ hb hcap]
  rcases Nat.le_total n 30 with hn | hn
  · rw [min_eq_left hn]
  · have hpow : b * 2 ^ 30 ≤ b * 2 ^ n :=
      Nat.mul_le_mul_left b (Nat.pow_le_pow_right (by decide) hn)
    rw [min_eq_right hn, min_eq_right hreached, min_eq_right (hreached.trans (ofMillis_mono hpow))]

/-! ### Pauses -/

/-- A whole number of milliseconds up to the limit. -/
def Drawable (limit delay : Duration) : Prop := ∃ k, delay = .ofMillis k ∧ delay ≤ limit

theorem drawable_of_no_millis {limit delay : Duration} (h : limit.millis = 0) :
    Drawable limit delay ↔ delay = .zero := by
  constructor
  · rintro ⟨k, rfl, hk⟩
    rw [ofMillis_le_iff, h, Nat.le_zero] at hk
    rw [hk]
    rfl
  · rintro rfl
    exact ⟨0, rfl, zero_le limit⟩

theorem exists_drawn_iff {n : Nat} {base delay : Duration} :
    (∃ random, drawn n base cap random = delay) ↔ Drawable (ceiling n base cap) delay := by
  constructor
  · rintro ⟨random, rfl⟩
    have hlt := Nat.mod_lt random (Nat.succ_pos (ceiling n base cap).millis)
    exact ⟨_, rfl, ofMillis_le_iff.mpr (Nat.le_of_lt_succ hlt)⟩
  · rintro ⟨k, rfl, hk⟩
    have hlt : k < (ceiling n base cap).millis + 1 := Nat.lt_succ_of_le (ofMillis_le_iff.mp hk)
    exact ⟨k, congrArg ofMillis (Nat.mod_eq_of_lt hlt)⟩

end Backoff

/-- A jitter draws what its backoff does, also where it draws nothing. -/
theorem PauseRule.exists_jitter_iff {σ : Type} {j : FullJitter} {d : FailedAttempt σ} {world : σ}
    {delay : Duration} :
    (∃ random, (jitter j random d world).1 = delay) ↔
      Backoff.Drawable (j.ceiling d.attempts) delay := by
  unfold jitter
  by_cases hnone : (j.ceiling d.attempts).millis = 0
  · simp only [if_pos hnone, exists_const, Backoff.drawable_of_no_millis hnone]
    exact eq_comm
  · simp only [if_neg hnone]
    refine Iff.trans ?_ Backoff.exists_drawn_iff
    constructor
    · rintro ⟨random, hrandom⟩
      exact ⟨_, hrandom⟩
    · rintro ⟨number, hnumber⟩
      exact ⟨fun world => (number, world), hnumber⟩

/-- For a base of whole milliseconds and a cap, both of 64 bits, the longest pause is zero before
any attempt, never above the cap and never shorter than after fewer attempts. It is the base,
doubled with every attempt after the first up to thirty times, or else the cap; so it is doubled
with every such attempt if thirty times are enough to reach the cap. The pauses that can be drawn,
by whatever random numbers, are the whole milliseconds up to the longest one. A jitter whose cap is
raised to its base starts with the base. -/
theorem Backoff.window_of_attempts (b : Nat) (cap : Duration) (hb : b ≤ maxCount)
    (hcap : cap ≤ .ofMillis maxCount) :
    let base := Duration.ofMillis b
    let j := FullJitter.of base cap
    ceiling 0 base cap = .zero ∧ (∀ n, ceiling n base cap ≤ cap) ∧
      (∀ m n, m ≤ n → ceiling m base cap ≤ ceiling n base cap) ∧
      (∀ n, (ceiling n base cap).millis ≤ maxCount ∧
        ceiling (n + 1) base cap = min (.ofMillis (b * 2 ^ min n 30)) cap) ∧
      (cap ≤ .ofMillis (b * 2 ^ 30) →
        ∀ n, ceiling (n + 1) base cap = min (.ofMillis (b * 2 ^ n)) cap) ∧
      (∀ n delay, (∃ random, drawn n base cap random = delay) ↔
        Drawable (ceiling n base cap) delay) ∧
      j.ceiling 1 = base ∧
      ∀ {σ : Type} (d : FailedAttempt σ) world delay,
        (∃ random, (PauseRule.jitter j random d world).1 = delay) ↔
          Drawable (j.ceiling d.attempts) delay := by
  intro base j
  refine ⟨ceiling_zero base cap, fun n => ceiling_le_cap n base cap, fun _ _ => ceiling_mono base cap,
    fun n => ⟨millis_ceiling_le n base cap, ceiling_succ hb hcap n⟩,
    ceiling_succ_of_reached hb hcap, fun n delay => exists_drawn_iff, ?_,
    fun d world delay => PauseRule.exists_jitter_iff⟩
  have hraised : max cap base ≤ .ofMillis maxCount := max_le hcap (Duration.ofMillis_mono hb)
  calc j.ceiling 1 = min (.ofMillis (b * 2 ^ 0)) (max cap base) := ceiling_succ hb hraised 0
    _ = min base (max cap base) := by rw [Nat.pow_zero, Nat.mul_one]
    _ = base := min_eq_left (le_max_right cap base)

/-- With a base of `2 ^ 40` milliseconds and the widest cap the product leaves its 64 bits, and the
exponent reaches its limit long before the attempts do. -/
theorem Backoff.window_beyond_product :
    let base := Duration.ofMillis (2 ^ 40)
    let cap := Duration.ofMillis maxCount
    2 ^ 40 ≤ maxCount ∧ cap ≤ .ofMillis maxCount ∧ cap ≤ .ofMillis (2 ^ 40 * 2 ^ 30) ∧
      ceiling 24 base cap = .ofMillis (2 ^ 63) ∧ ceiling maxCount base cap = cap ∧
      (∃ random, drawn 24 base cap random = .ofMillis (2 ^ 63)) ∧
      (FullJitter.of base cap).ceiling 1 = base := by
  intro base cap
  have hb : 2 ^ 40 ≤ maxCount := by decide
  have hreached : cap ≤ .ofMillis (2 ^ 40 * 2 ^ 30) := by decide
  obtain ⟨-, hle, hmono, -, hdoubled, hdrawn, hfirst, -⟩ :=
    window_of_attempts (2 ^ 40) cap hb (le_refl cap)
  have hlong : ceiling 24 base cap = .ofMillis (2 ^ 63) := (hdoubled hreached 23).trans (by decide)
  have hlongest : ceiling 25 base cap = cap := (hdoubled hreached 24).trans (by decide)
  refine ⟨hb, le_refl cap, hreached, hlong, ?_, (hdrawn 24 _).mpr ⟨2 ^ 63, rfl, hlong.ge⟩, hfirst⟩
  exact le_antisymm (hle maxCount) (hlongest.ge.trans (hmono 25 maxCount (by decide)))

end ServiceCall
