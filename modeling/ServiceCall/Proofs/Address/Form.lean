import Mathlib.Data.List.TakeWhile
import ServiceCall.Parameters
import ServiceCall.Uri

/-!
Forms. What is read from the text of a form are the pairs of its parameters, and the text may
stand in the query of an address.
-/

namespace ServiceCall

/-- A name without values is not the empty one. -/
def Parameters.Named (p : Parameters) : Prop := ∀ e ∈ p.entries, e.2 = [] → e.1 ≠ ""

instance (p : Parameters) : Decidable p.Named :=
  inferInstanceAs (Decidable (∀ e ∈ p.entries, e.2 = [] → e.1 ≠ ""))

namespace Parts

variable {α : Type} {separates : α → Bool}

theorem split_of_forall {part : List α} (h : ∀ a ∈ part, separates a = false) :
    split separates part = [part] := by
  induction part with
  | nil => rfl
  | cons a part ih =>
    have ha : separates a = false := h a (by simp)
    simp [split, ih (fun b hb => h b (by simp [hb])), ha]

theorem split_append {part : List α} (h : ∀ a ∈ part, separates a = false) {s : α}
    (hs : separates s = true) (rest : List α) :
    split separates (part ++ s :: rest) = part :: split separates rest := by
  induction part with
  | nil =>
    cases hrest : split separates rest with
    | nil => exact absurd hrest (split_ne_nil separates rest)
    | cons first more => simp [split, hrest, hs]
  | cons a part ih =>
    have ha : separates a = false := h a (by simp)
    simp [split, ih (fun b hb => h b (by simp [hb])), ha]

/-- Splitting undoes joining. -/
theorem split_intercalate {s : α} (hs : separates s = true) {parts : List (List α)}
    (hparts : parts ≠ []) (h : ∀ part ∈ parts, ∀ a ∈ part, separates a = false) :
    split separates ([s].intercalate parts) = parts := by
  induction parts with
  | nil => exact absurd rfl hparts
  | cons part parts ih =>
    have hpart : ∀ a ∈ part, separates a = false := h part (by simp)
    cases parts with
    | nil => simpa using split_of_forall hpart
    | cons next parts =>
      have hrest := ih (by simp) fun part hmem => h part (by simp [hmem])
      rw [List.intercalate_cons_cons, List.append_assoc, List.singleton_append,
        split_append hpart hs, hrest]

end Parts

theorem Bytes.ofString_eq_nil_iff {text : String} : Bytes.ofString text = [] ↔ text = "" := by
  rw [ofString, Utf8.encode, List.flatMap_eq_nil_iff]
  constructor
  · intro h
    rw [← String.toList_eq_nil_iff]
    exact List.eq_nil_iff_forall_not_mem.mpr fun c hc => String.utf8EncodeChar_ne_nil (h c hc)
  · rintro rfl c hc
    exact absurd hc (by simp)

namespace Utf8

theorem encode_append (text rest : List Char) :
    encode (text ++ rest) = encode text ++ encode rest := List.flatMap_append

theorem encode_intercalate (c : Char) (parts : List (List Char)) :
    encode ([c].intercalate parts) = (encode [c]).intercalate (parts.map encode) := by
  induction parts with
  | nil => rfl
  | cons part parts ih =>
    cases parts with
    | nil => simp
    | cons next parts =>
      rw [List.map_cons] at ih
      rw [List.intercalate_cons_cons, encode_append, encode_append, ih, List.map_cons,
        List.map_cons, List.intercalate_cons_cons]

end Utf8

namespace Percent

theorem decode_cons {b : UInt8} (h : b ≠ 0x25) (rest : Bytes) :
    decode (b :: rest) = b :: decode rest := by
  rw [decode.eq_def]
  simp [h]

theorem decode_escape {h l : UInt8} {high low : Nat}
    (hh : Hex.value? (Char.ofNat h.toNat) = some high)
    (hl : Hex.value? (Char.ofNat l.toNat) = some low) (rest : Bytes) :
    decode (0x25 :: h :: l :: rest) = UInt8.ofNat (high * 16 + low) :: decode rest := by
  rw [decode.eq_def]
  simp [hh, hl]

end Percent

namespace Form

/-! ### One byte -/

/-- What is true of all numbers below 256 is true of every byte. -/
theorem forall_byte {P : UInt8 → Prop} (h : ∀ n < 256, P (UInt8.ofNat n)) (b : UInt8) : P b := by
  have := h b.toNat b.toNat_lt
  rwa [UInt8.ofNat_toNat] at this

/-- The bytes of one byte of a name or of a value. -/
def written (b : UInt8) : Bytes := Utf8.encode (encodeByte b)

/-- No byte is written by nothing, nor by one of the two bytes that separate. -/
theorem written_inside (b : UInt8) : written b ≠ [] ∧ ∀ a ∈ written b, a ≠ 0x26 ∧ a ≠ 0x3D := by
  have hall : written b ≠ [] ∧ (written b).all (fun a => a ≠ 0x26 ∧ a ≠ 0x3D) = true := by
    apply forall_byte (P := fun b => written b ≠ [] ∧
      (written b).all (fun a => a ≠ 0x26 ∧ a ≠ 0x3D) = true)
    decide +kernel
  simpa only [List.all_eq_true, decide_eq_true_eq] using hall

theorem isQueryChar_encodeByte (b : UInt8) : ∀ c ∈ encodeByte b, Uri.isQueryChar c = true := by
  have hall : (encodeByte b).all Uri.isQueryChar = true := by
    apply forall_byte (P := fun b => (encodeByte b).all Uri.isQueryChar = true)
    decide +kernel
  exact List.all_eq_true.mp hall

/-- The byte of a hexadecimal digit. -/
def digit (n : Nat) : UInt8 := UInt8.ofNat (Hex.digit n).toNat

theorem value?_digit : ∀ n < 16, Hex.value? (Char.ofNat (digit n).toNat) = some n ∧
    digit n ≠ 0x2B := by
  decide

/-- A byte is written as a plus sign, as itself, or by two digits. -/
theorem written_cases (b : UInt8) :
    (b = 0x20 ∧ written b = [0x2B]) ∨ (b ≠ 0x2B ∧ b ≠ 0x25 ∧ written b = [b]) ∨
      written b = [0x25, digit (b.toNat / 16), digit (b.toNat % 16)] := by
  apply forall_byte (P := fun b => (b = 0x20 ∧ written b = [0x2B]) ∨
    (b ≠ 0x2B ∧ b ≠ 0x25 ∧ written b = [b]) ∨
      written b = [0x25, digit (b.toNat / 16), digit (b.toNat % 16)])
  decide +kernel

theorem decodeText_written (b : UInt8) (rest : Bytes) :
    decodeText (written b ++ rest) = b :: decodeText rest := by
  obtain ⟨rfl, hwritten⟩ | ⟨hplus, hpercent, hwritten⟩ | hwritten := written_cases b
  · rw [hwritten]
    exact Percent.decode_cons (by decide) _
  · rw [hwritten]
    simp only [decodeText, List.singleton_append, List.map_cons, if_neg hplus]
    exact Percent.decode_cons hpercent _
  · have hb : b.toNat < 256 := b.toNat_lt
    obtain ⟨hhigh, hhighPlus⟩ := value?_digit (b.toNat / 16) (by omega)
    obtain ⟨hlow, hlowPlus⟩ := value?_digit (b.toNat % 16) (by omega)
    have hnumber : b.toNat / 16 * 16 + b.toNat % 16 = b.toNat := by omega
    have hpercent : (0x25 : UInt8) ≠ 0x2B := by decide
    simp only [decodeText, hwritten, List.cons_append, List.nil_append, List.map_cons,
      if_neg hpercent, if_neg hhighPlus, if_neg hlowPlus]
    rw [Percent.decode_escape hhigh hlow, hnumber, UInt8.ofNat_toNat]

/-! ### Names and values -/

theorem encode_encodeText (text : String) :
    Utf8.encode (encodeText text) = (Bytes.ofString text).flatMap written := by
  rw [encodeText, Utf8.encode, List.flatMap_assoc]
  rfl

/-- A name or a value is read as its bytes. -/
theorem decodeText_encodeText (text : String) :
    decodeText (Utf8.encode (encodeText text)) = Bytes.ofString text := by
  rw [encode_encodeText]
  induction Bytes.ofString text with
  | nil => rfl
  | cons b bytes ih => rw [List.flatMap_cons, decodeText_written, ih]

theorem ne_of_mem_encodeText {text : String} {a : UInt8}
    (h : a ∈ Utf8.encode (encodeText text)) : a ≠ 0x26 ∧ a ≠ 0x3D := by
  rw [encode_encodeText] at h
  obtain ⟨b, -, ha⟩ := List.mem_flatMap.1 h
  exact (written_inside b).2 a ha

theorem encode_encodeText_ne_nil {text : String} (h : text ≠ "") :
    Utf8.encode (encodeText text) ≠ [] := by
  rw [encode_encodeText, Ne, List.flatMap_eq_nil_iff]
  intro hnil
  cases hbytes : Bytes.ofString text with
  | nil => exact h (Bytes.ofString_eq_nil_iff.1 hbytes)
  | cons b bytes => exact (written_inside b).1 (hnil b (by simp [hbytes]))

/-! ### Entries -/

/-- The pair that one part of a form is read as. -/
def decodePart (part : Bytes) : Bytes × Bytes :=
  (decodeText (part.takeWhile (· ≠ 0x3D)), decodeText ((part.dropWhile (· ≠ 0x3D)).drop 1))

def bytesOf (pair : String × String) : Bytes × Bytes :=
  (Bytes.ofString pair.1, Bytes.ofString pair.2)

theorem decodePart_name (name : String) :
    decodePart (Utf8.encode (encodeText name)) = bytesOf (name, "") := by
  have hname : ∀ a ∈ Utf8.encode (encodeText name), decide (a ≠ 0x3D) = true := by
    intro a ha
    simpa using (ne_of_mem_encodeText ha).2
  rw [decodePart, List.takeWhile_eq_self_iff.2 hname, List.dropWhile_eq_nil_iff.2 hname,
    decodeText_encodeText]
  rfl

theorem decodePart_pair (name value : String) :
    decodePart (Utf8.encode (encodeText name ++ '=' :: encodeText value)) =
      bytesOf (name, value) := by
  have hname : ∀ a ∈ Utf8.encode (encodeText name), decide (a ≠ 0x3D) = true := by
    intro a ha
    simpa using (ne_of_mem_encodeText ha).2
  have hpart : Utf8.encode (encodeText name ++ '=' :: encodeText value) =
      Utf8.encode (encodeText name) ++ 0x3D :: Utf8.encode (encodeText value) :=
    Utf8.encode_append _ _
  rw [decodePart, hpart, List.takeWhile_append_of_pos hname, List.dropWhile_append_of_pos hname]
  simp [decodeText_encodeText, bytesOf]

/-- The pairs that stand for one entry. -/
def pairsOf (e : String × List String) : List (String × String) :=
  if e.2.isEmpty then [(e.1, "")] else e.2.map (e.1, ·)

theorem map_encodeEntry (e : String × List String) :
    (encodeEntry e.1 e.2).map (decodePart ∘ Utf8.encode) = (pairsOf e).map bytesOf := by
  obtain ⟨name, values⟩ := e
  cases values with
  | nil => simp [encodeEntry, pairsOf, decodePart_name]
  | cons value values => simp [encodeEntry, pairsOf, decodePart_pair]

theorem mem_encodeEntry {name : String} {values : List String} {part : List Char}
    (h : part ∈ encodeEntry name values) :
    (values = [] ∧ part = encodeText name) ∨
      ∃ value, part = encodeText name ++ '=' :: encodeText value := by
  cases values with
  | nil => exact Or.inl ⟨rfl, by simpa [encodeEntry] using h⟩
  | cons first rest =>
    rw [encodeEntry, if_neg (by simp)] at h
    obtain ⟨value, -, hvalue⟩ := List.mem_map.1 h
    exact Or.inr ⟨value, hvalue.symm⟩

/-- Inside an entry nothing ends it, and a named one is not empty. -/
theorem encodeEntry_inside {e : String × List String} (h : e.2 = [] → e.1 ≠ "")
    {part : List Char} (hpart : part ∈ encodeEntry e.1 e.2) :
    Utf8.encode part ≠ [] ∧ ∀ a ∈ Utf8.encode part, a ≠ 0x26 := by
  obtain ⟨hvalues, rfl⟩ | ⟨value, rfl⟩ := mem_encodeEntry hpart
  · exact ⟨encode_encodeText_ne_nil (h hvalues), fun a ha => (ne_of_mem_encodeText ha).1⟩
  · have hequals : Utf8.encode ['='] = [0x3D] := by decide
    rw [Utf8.encode_append, ← List.singleton_append, Utf8.encode_append, hequals]
    refine ⟨by simp, ?_⟩
    intro a ha
    obtain hname | hrest := List.mem_append.1 ha
    · exact (ne_of_mem_encodeText hname).1
    · obtain heq | hvalue := List.mem_append.1 hrest
      · simp [List.mem_singleton.1 heq]
      · exact (ne_of_mem_encodeText hvalue).1

theorem isQueryChar_encodeText (text : String) :
    ∀ c ∈ encodeText text, Uri.isQueryChar c = true := by
  intro c hc
  obtain ⟨b, -, hb⟩ := List.mem_flatMap.1 hc
  exact isQueryChar_encodeByte b c hb

theorem isQueryChar_encodeEntry {name : String} {values : List String} {part : List Char}
    (hpart : part ∈ encodeEntry name values) : ∀ c ∈ part, Uri.isQueryChar c = true := by
  obtain ⟨-, rfl⟩ | ⟨value, rfl⟩ := mem_encodeEntry hpart
  · exact isQueryChar_encodeText name
  · intro c hc
    obtain hname | rfl | hvalue : c ∈ encodeText name ∨ c = '=' ∨ c ∈ encodeText value := by
      simpa using hc
    · exact isQueryChar_encodeText name c hname
    · decide
    · exact isQueryChar_encodeText value c hvalue

/-! ### The whole form -/

theorem mem_intercalate {c s : Char} {parts : List (List Char)}
    (h : c ∈ [s].intercalate parts) : c = s ∨ ∃ part ∈ parts, c ∈ part := by
  induction parts with
  | nil => simp at h
  | cons part parts ih =>
    cases parts with
    | nil => exact Or.inr ⟨part, by simp, by simpa using h⟩
    | cons next parts =>
      rw [List.intercalate_cons_cons, List.mem_append, List.mem_append,
        List.mem_singleton] at h
      obtain (hpart | hs) | hrest := h
      · exact Or.inr ⟨part, by simp, hpart⟩
      · exact Or.inl hs
      · obtain hs | ⟨later, hlater, hc⟩ := ih hrest
        · exact Or.inl hs
        · exact Or.inr ⟨later, by simp [hlater], hc⟩

/-- The text of a form may stand in a query. -/
theorem isQueryChar_encode (p : Parameters) : ∀ c ∈ encode p, Uri.isQueryChar c = true := by
  intro c hc
  obtain rfl | ⟨part, hpart, hcpart⟩ := mem_intercalate hc
  · decide
  · obtain ⟨e, -, he⟩ := List.mem_flatMap.1 (List.dropWhile_subset _ hpart)
    exact isQueryChar_encodeEntry he c hcpart

/-- The pairs of a form are read in their order, each once. -/
theorem decode_encode {p : Parameters} (h : p.Named) :
    decode (Utf8.encode (encode p)) = p.pairs.map bytesOf := by
  let parts := p.entries.flatMap fun e => encodeEntry e.1 e.2
  have hparts : ∀ part ∈ parts, Utf8.encode part ≠ [] ∧ ∀ a ∈ Utf8.encode part, a ≠ 0x26 := by
    intro part hpart
    obtain ⟨e, he, hpart⟩ := List.mem_flatMap.1 hpart
    exact encodeEntry_inside (h e he) hpart
  have hencode : Utf8.encode (encode p) = [0x26].intercalate (parts.map Utf8.encode) := by
    have hfirst : parts.dropWhile List.isEmpty = parts := by
      cases hp : parts with
      | nil => rfl
      | cons part rest =>
        have hpart : part ≠ [] := by
          rintro rfl
          exact (hparts [] (by simp [hp])).1 rfl
        simp [hpart]
    have hand : Utf8.encode ['&'] = [0x26] := by decide
    rw [encode, hfirst, Utf8.encode_intercalate, hand]
  have hsplit : (Parts.split (· = 0x26) (Utf8.encode (encode p))).filter (· ≠ []) =
      parts.map Utf8.encode := by
    rw [hencode]
    by_cases hnil : parts = []
    · simp [hnil, Parts.split]
    · rw [Parts.split_intercalate (by simp) (by simpa using hnil)]
      · simpa using fun part hpart => (hparts part hpart).1
      · simpa using fun part hpart => (hparts part hpart).2
  calc decode (Utf8.encode (encode p))
      = ((Parts.split (· = 0x26) (Utf8.encode (encode p))).filter (· ≠ [])).map decodePart := rfl
    _ = parts.map (decodePart ∘ Utf8.encode) := by rw [hsplit, List.map_map]
    _ = p.entries.flatMap fun e => (pairsOf e).map bytesOf := by
      rw [List.map_flatMap]
      simp only [map_encodeEntry]
    _ = p.pairs.map bytesOf := by
      rw [← List.map_flatMap]
      rfl

end Form

end ServiceCall
