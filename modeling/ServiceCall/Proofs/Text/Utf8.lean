import ServiceCall.Text.Utf8

/-!
Text as bytes. The decoder takes up one byte after the other, and from the bytes of a text it makes
the characters of that text.
-/

namespace ServiceCall

namespace Utf8

/-! ### Bytes one by one -/

/-- A byte behind the first one of its character, which holds six bits. -/
def continuation (n : Nat) : UInt8 := UInt8.ofNat (n % 64 + 128)

theorem toNat_continuation (n : Nat) : (continuation n).toNat = n % 64 + 128 := by
  unfold continuation
  rw [UInt8.toNat_ofNat']
  omega

theorem bits_continuation (n : Nat) : (continuation n).toNat % 64 = n % 64 := by
  rw [toNat_continuation]
  omega

/-- A byte that is not the last one of its character, within the bounds that the first one sets. -/
theorem decodeFrom_middle {low high : UInt8} {n : Nat} (hlow : low.toNat ≤ n % 64 + 128)
    (hhigh : n % 64 + 128 ≤ high.toNat) (missing value : Nat) (rest : Bytes) :
    decodeFrom (some ⟨missing + 2, value, low, high⟩) (continuation n :: rest) =
      decodeFrom (some { needed := missing + 1, value := value * 64 + n % 64 }) rest := by
  have hbounds : low ≤ continuation n ∧ continuation n ≤ high := by
    rw [UInt8.le_iff_toNat_le, UInt8.le_iff_toNat_le, toNat_continuation]
    exact ⟨hlow, hhigh⟩
  simp [decodeFrom, step, hbounds, bits_continuation]

theorem decodeFrom_last (value n : Nat) (rest : Bytes) :
    decodeFrom (some { needed := 1, value }) (continuation n :: rest) =
      some (Char.ofNat (value * 64 + n % 64)) :: decodeFrom none rest := by
  have hbounds : 0x80 ≤ continuation n ∧ continuation n ≤ 0xBF := by
    rw [UInt8.le_iff_toNat_le, UInt8.le_iff_toNat_le, toNat_continuation]
    exact ⟨Nat.le_add_left .., by simp; omega⟩
  simp [decodeFrom, step, hbounds, bits_continuation]

/-! ### First bytes -/

deriving instance DecidableEq for Pending

theorem start_single : ∀ n < 128, start (UInt8.ofNat n) = ([some (Char.ofNat n)], none) := by
  decide +kernel

theorem start_two : ∀ k < 32, 2 ≤ k →
    start (UInt8.ofNat (k + 192)) = ([], some { needed := 1, value := k }) := by
  decide +kernel

/-- Neither an overlong form nor a surrogate may follow. -/
theorem start_three : ∀ k < 16, start (UInt8.ofNat (k + 224)) =
    ([], some ⟨2, k, if k = 0 then 0xA0 else 0x80, if k = 13 then 0x9F else 0xBF⟩) := by
  decide +kernel

/-- Neither an overlong form nor a number beyond the last character may follow. -/
theorem start_four : ∀ k < 5, start (UInt8.ofNat (k + 240)) =
    ([], some ⟨3, k, if k = 0 then 0x90 else 0x80, if k = 4 then 0x8F else 0xBF⟩) := by
  decide +kernel

/-! ### Characters -/

theorem decodeFrom_none_of_start {b : UInt8} {p : Pending} (h : start b = ([], some p))
    (rest : Bytes) : decodeFrom none (b :: rest) = decodeFrom (some p) rest := by
  simp [decodeFrom, step, h]

theorem decodeFrom_two {n : Nat} (hmin : 0x80 ≤ n) (hmax : n < 0x800) (rest : Bytes) :
    decodeFrom none (UInt8.ofNat (n / 64 + 192) :: continuation n :: rest) =
      some (Char.ofNat n) :: decodeFrom none rest := by
  have hnumber : n / 64 * 64 + n % 64 = n := by omega
  rw [decodeFrom_none_of_start (start_two (n / 64) (by omega) (by omega)), decodeFrom_last,
    hnumber]

theorem decodeFrom_three {n : Nat} (hmin : 0x800 ≤ n) (hmax : n < 0x10000)
    (hvalid : n < 0xD800 ∨ 0xDFFF < n) (rest : Bytes) :
    decodeFrom none
        (UInt8.ofNat (n / 4096 + 224) :: continuation (n / 64) :: continuation n :: rest) =
      some (Char.ofNat n) :: decodeFrom none rest := by
  have hnumber : (n / 4096 * 64 + n / 64 % 64) * 64 + n % 64 = n := by omega
  rw [decodeFrom_none_of_start (start_three (n / 4096) (by omega)), decodeFrom_middle,
    decodeFrom_last, hnumber]
  · split
    · change 0xA0 ≤ n / 64 % 64 + 128
      omega
    · exact Nat.le_add_left ..
  · split
    · change n / 64 % 64 + 128 ≤ 0x9F
      omega
    · change n / 64 % 64 + 128 ≤ 0xBF
      omega

theorem decodeFrom_four {n : Nat} (hmin : 0x10000 ≤ n) (hmax : n < 0x110000) (rest : Bytes) :
    decodeFrom none (UInt8.ofNat (n / 262144 + 240) :: continuation (n / 4096) ::
        continuation (n / 64) :: continuation n :: rest) =
      some (Char.ofNat n) :: decodeFrom none rest := by
  have hnumber : ((n / 262144 * 64 + n / 4096 % 64) * 64 + n / 64 % 64) * 64 + n % 64 = n := by
    omega
  rw [decodeFrom_none_of_start (start_four (n / 262144) (by omega)), decodeFrom_middle,
    decodeFrom_middle, decodeFrom_last, hnumber]
  · exact Nat.le_add_left ..
  · change n / 64 % 64 + 128 ≤ 0xBF
    omega
  · split
    · change 0x90 ≤ n / 4096 % 64 + 128
      omega
    · exact Nat.le_add_left ..
  · split
    · change n / 4096 % 64 + 128 ≤ 0x8F
      omega
    · change n / 4096 % 64 + 128 ≤ 0xBF
      omega

/-- The bytes of a character are read as that character, whatever follows them. -/
theorem decodeFrom_encodeChar (c : Char) (rest : Bytes) :
    decodeFrom none (String.utf8EncodeChar c ++ rest) = some c :: decodeFrom none rest := by
  have hvalid : c.toNat < 0xD800 ∨ (0xDFFF < c.toNat ∧ c.toNat < 0x110000) := c.valid
  have hc : Char.ofNat c.toNat = c := Char.ofNat_toNat c
  unfold String.utf8EncodeChar
  rw [show c.val.toNat = c.toNat from rfl]
  dsimp only
  split
  · next hone =>
    simp [decodeFrom, step, start_single c.toNat (by omega), hc]
  · split
    · next htwo =>
      have hfirst : c.toNat / 64 % 32 = c.toNat / 64 := by omega
      rw [hfirst, List.cons_append, List.cons_append, List.nil_append]
      exact (decodeFrom_two (by omega) (by omega) rest).trans (by rw [hc])
    · split
      · next hthree =>
        have hfirst : c.toNat / 4096 % 16 = c.toNat / 4096 := by omega
        rw [hfirst, List.cons_append, List.cons_append, List.cons_append, List.nil_append]
        exact (decodeFrom_three (by omega) (by omega) (by omega) rest).trans (by rw [hc])
      · next hfour =>
        have hfirst : c.toNat / 262144 % 8 = c.toNat / 262144 := by omega
        rw [hfirst, List.cons_append, List.cons_append, List.cons_append, List.cons_append,
          List.nil_append]
        exact (decodeFrom_four (by omega) (by omega) rest).trans (by rw [hc])

theorem decode_encode (text : List Char) : decode (encode text) = text.map some := by
  unfold decode encode
  induction text with
  | nil => rfl
  | cons c text ih => rw [List.flatMap_cons, decodeFrom_encodeChar, ih, List.map_cons]

end Utf8

/-- The bytes of a text are valid, and they are the bytes of no other text. -/
theorem Bytes.toString?_ofString (text : String) : toString? (ofString text) = some text := by
  have hall : ∀ cs : List Char, (cs.map some).mapM id = some cs := by
    intro cs
    induction cs with
    | nil => rfl
    | cons c cs ih => simp [List.mapM_cons, ih]
  rw [toString?, ofString, Utf8.decode_encode, hall, Option.map_some, String.ofList_toList]

end ServiceCall
