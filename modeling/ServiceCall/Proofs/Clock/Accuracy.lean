import Mathlib.Algebra.Order.Group.Unbundled.Int
import ServiceCall.ClockOffset

/-!
How accurate an offset is. It is the whole second nearest to what the local clock and the clock of
the service are apart, as far as 32 bits hold it; so a clock that is set back by the offset is
within half a second of the other one.
-/

namespace ServiceCall.ClockOffset

/-! ### The time of the service -/

/-- The service tells its time, in milliseconds since the start of 1970. A header field goes
before the message, even if nobody can read it. -/
inductive Tells (headers : Headers) (message : String) : Int → Prop where
  | header {value : HeaderValue} {text : String} {seconds : Int}
    (present : headers.get? "date" = some value) (readable : value.text? = some text)
    (date : HttpDate.seconds? text = some seconds) : Tells headers message (seconds * 1000)
  | message {text : List Char} {seconds : Int} (absent : headers.get? "date" = none)
    (embedded : dateInMessage? message.toList = some text)
    (date : CompactDate.seconds? text = some seconds) : Tells headers message (seconds * 1000)

theorem tells_iff {headers : Headers} {message : String} {t : Int} :
    Tells headers message t ↔ serverMillis? headers message = some t := by
  constructor
  · intro h
    cases h with
    | header present readable date => simp [serverMillis?, present, readable, date]
    | message absent embedded date => simp [serverMillis?, absent, embedded, date]
  · intro h
    unfold serverMillis? at h
    split at h
    · next present =>
      obtain ⟨seconds, hseconds, rfl⟩ := Option.map_eq_some_iff.1 h
      obtain ⟨text, readable, date⟩ := Option.bind_eq_some_iff.1 hseconds
      exact .header present readable date
    · next absent =>
      obtain ⟨seconds, hseconds, rfl⟩ := Option.map_eq_some_iff.1 h
      obtain ⟨text, embedded, date⟩ := Option.bind_eq_some_iff.1 hseconds
      exact .message absent embedded date

theorem compute?_of_tells {headers : Headers} {message : String} {t : Int}
    (h : Tells headers message t) (now : Int) :
    compute? headers message now = some (clamp (roundMillis (millisOfNanos now - t))) := by
  rw [compute?, tells_iff.1 h, Option.map_some]

theorem compute?_eq_none {headers : Headers} {message : String}
    (h : ∀ t, ¬ Tells headers message t) (now : Int) : compute? headers message now = none := by
  rw [compute?, Option.map_eq_none_iff, Option.eq_none_iff_forall_ne_some]
  exact fun t ht => h t (tells_iff.2 ht)

/-- No message is read beside a header field. -/
theorem serverMillis?_of_present {headers : Headers} {value : HeaderValue}
    (h : headers.get? "date" = some value) (message other : String) :
    serverMillis? headers other = serverMillis? headers message := by
  simp only [serverMillis?, h]

/-! ### Milliseconds -/

theorem tdiv_eq_ite (n k : Int) : n.tdiv k = if 0 ≤ n then n / k else -(-n / k) := by
  split
  · next h => exact Int.tdiv_eq_ediv_of_nonneg h
  · next h =>
    have hneg : 0 ≤ -n := by omega
    rw [← Int.tdiv_eq_ediv_of_nonneg hneg, Int.neg_tdiv, Int.neg_neg]

theorem millisOfNanos_mono {a b : Int} (h : a ≤ b) : millisOfNanos a ≤ millisOfNanos b := by
  simp only [millisOfNanos, tdiv_eq_ite]
  omega

/-- Less than a millisecond is cut off. -/
theorem abs_sub_millisOfNanos_lt (n : Int) : |n - 1000000 * millisOfNanos n| < 1000000 := by
  simp only [millisOfNanos, tdiv_eq_ite, Int.abs_eq_natAbs]
  omega

/-! ### The nearest second -/

/-- No other second is nearer to the milliseconds, and of two that are equally near it is the one
farther from zero. -/
structure Nearest (millis second : Int) : Prop where
  near : |millis - 1000 * second| ≤ 500
  away : |millis - 1000 * second| = 500 → |millis| < |1000 * second|

theorem nearest_roundMillis (millis : Int) : Nearest millis (roundMillis millis) := by
  constructor
  · simp only [roundMillis, tdiv_eq_ite, Int.abs_eq_natAbs]
    split <;> omega
  · simp only [roundMillis, tdiv_eq_ite, Int.abs_eq_natAbs]
    split <;> omega

theorem Nearest.mono {a b m n : Int} (hm : Nearest a m) (hn : Nearest b n) (h : a ≤ b) :
    m ≤ n := by
  obtain ⟨hnear, haway⟩ := hm
  obtain ⟨hnear', haway'⟩ := hn
  simp only [Int.abs_eq_natAbs] at *
  omega

theorem Nearest.unique {a m n : Int} (hm : Nearest a m) (hn : Nearest a n) : m = n :=
  Int.le_antisymm (hm.mono hn (Int.le_refl a)) (hn.mono hm (Int.le_refl a))

theorem Nearest.neg {a n : Int} (h : Nearest a n) : Nearest (-a) (-n) := by
  obtain ⟨hnear, haway⟩ := h
  constructor
  · simp only [Int.abs_eq_natAbs] at *
    omega
  · simp only [Int.abs_eq_natAbs] at *
    omega

theorem roundMillis_mono {a b : Int} (h : a ≤ b) : roundMillis a ≤ roundMillis b :=
  (nearest_roundMillis a).mono (nearest_roundMillis b) h

theorem roundMillis_neg (a : Int) : roundMillis (-a) = -roundMillis a :=
  (nearest_roundMillis (-a)).unique (nearest_roundMillis a).neg

example : roundMillis 499 = 0 ∧ roundMillis 500 = 1 ∧ roundMillis (-500) = -1 := by decide

/-! ### Offsets of 32 bits -/

/-- How the offset has to be for a local time and the time of the service, both in milliseconds:
the second nearest to what they are apart, or the nearer one of the two bounds. -/
structure Accurate (here there offset : Int) : Prop where
  held : ∀ n, Nearest (here - there) n → minSeconds ≤ n → n ≤ maxSeconds →
    offset = n ∧ |here - 1000 * offset - there| ≤ 500
  bound : ∀ n, Nearest (here - there) n → n < minSeconds ∨ maxSeconds < n →
    (offset = minSeconds ∨ offset = maxSeconds) ∧
      |here - there - 1000 * offset| ≤ |here - there - 1000 * minSeconds| ∧
      |here - there - 1000 * offset| ≤ |here - there - 1000 * maxSeconds|

theorem clamp_of_held {n : Int} (hmin : minSeconds ≤ n) (hmax : n ≤ maxSeconds) :
    clamp n = n := by
  unfold clamp
  omega

theorem clamp_mono {m n : Int} (h : m ≤ n) : clamp m ≤ clamp n := by
  unfold clamp
  omega

theorem accurate_clamp (here there : Int) :
    Accurate here there (clamp (roundMillis (here - there))) := by
  have hnearest := nearest_roundMillis (here - there)
  constructor
  · intro n hn hmin hmax
    obtain rfl := hn.unique hnearest
    rw [clamp_of_held hmin hmax]
    refine ⟨rfl, ?_⟩
    have hnear := hnearest.near
    simp only [Int.abs_eq_natAbs] at hnear ⊢
    omega
  · intro n hn hout
    obtain rfl := hn.unique hnearest
    have hnear := hnearest.near
    simp only [clamp, minSeconds, maxSeconds, Int.abs_eq_natAbs] at *
    omega

/-- An offset that is held brings the local clock within half a second of the clock of the
service, the part of a millisecond aside that is cut off. -/
theorem Accurate.corrected {now there offset n : Int}
    (h : Accurate (millisOfNanos now) there offset) (hn : Nearest (millisOfNanos now - there) n)
    (hmin : minSeconds ≤ n) (hmax : n ≤ maxSeconds) :
    |now - 1000000000 * offset - 1000000 * there| < 501000000 := by
  obtain ⟨-, hheld⟩ := h.held n hn hmin hmax
  have hcut := abs_sub_millisOfNanos_lt now
  simp only [Int.abs_eq_natAbs] at *
  omega

/-! ### Offsets that are found -/

/-- An offset is found if the service tells its time. A header field alone decides where there is
one, and else the message. The offset is the second nearest to what the clocks are apart, as far as
32 bits hold it, so that it sets the local clock to that of the service up to half a second. Later
it is not smaller, and it is the opposite one for clocks that are apart the other way round. -/
theorem offset_of_clocks (headers : Headers) (message : String) (now : Int) :
    (∀ value, headers.get? "date" = some value →
      (∀ other, compute? headers other now = compute? headers message now) ∧
      (value.text?.bind HttpDate.seconds? = none → compute? headers message now = none)) ∧
    ((∀ t, ¬ Tells headers message t) → compute? headers message now = none) ∧
    ∀ t, Tells headers message t → ∃ offset, compute? headers message now = some offset ∧
      Accurate (millisOfNanos now) t offset ∧
      (∀ n, Nearest (millisOfNanos now - t) n → minSeconds ≤ n → n ≤ maxSeconds →
        |now - 1000000000 * offset - 1000000 * t| < 501000000) ∧
      (∀ later, now ≤ later →
        ∃ offset', compute? headers message later = some offset' ∧ offset ≤ offset') ∧
      ∀ headers' message' now' t' n, Tells headers' message' t' →
        millisOfNanos now' - t' = t - millisOfNanos now →
        Nearest (millisOfNanos now - t) n → -maxSeconds ≤ n → n ≤ maxSeconds →
        compute? headers' message' now' = some (-offset) := by
  refine ⟨fun value hvalue => ⟨fun other => ?_, fun hdate => ?_⟩,
    fun hnone => compute?_eq_none hnone now, fun t ht => ?_⟩
  · rw [compute?, compute?, serverMillis?_of_present hvalue message other]
  · simp only [compute?, serverMillis?, hvalue, hdate, Option.map_none]
  · have haccurate := accurate_clamp (millisOfNanos now) t
    refine ⟨_, compute?_of_tells ht now, haccurate, fun n => haccurate.corrected, ?_, ?_⟩
    · intro later hlater
      have hmillis := millisOfNanos_mono hlater
      exact ⟨_, compute?_of_tells ht later, clamp_mono (roundMillis_mono (by omega))⟩
    · intro headers' message' now' t' n ht' hopposite hn hmin hmax
      have hneg : millisOfNanos now' - t' = -(millisOfNanos now - t) := by omega
      obtain rfl := hn.unique (nearest_roundMillis _)
      rw [compute?_of_tells ht' now', hneg, roundMillis_neg]
      have hmin' : minSeconds ≤ roundMillis (millisOfNanos now - t) :=
        Int.le_trans (by decide) hmin
      rw [clamp_of_held hmin' hmax, clamp_of_held (Int.le_trans (by decide) (Int.neg_le_neg hmax))
        (Int.neg_le_of_neg_le hmin)]

/-- The service is one and a half seconds behind, which makes two. -/
example : compute? {} "RequestExpired (20130401T040113Z - 15 min.)" 1364788874500000000 =
    some 2 := by
  decide +kernel

end ServiceCall.ClockOffset
