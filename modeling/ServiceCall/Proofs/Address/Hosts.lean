import ServiceCall.Proofs.Address.Authority
import ServiceCall.Proofs.Address.Form
import ServiceCall.Url.Host

/-!
Hosts of web addresses. The text of a host holds no character that parts an address, and a text
with the sign behind which a host begins is not read as the name of one.
-/

namespace ServiceCall

/-! ### Lists -/

/-- What each element of a list gives stands in what the list gives. -/
theorem mem_of_mapM {α β : Type} {f : α → Option β} {as : List α} {bs : List β}
    (h : as.mapM f = some bs) {a : α} (ha : a ∈ as) : ∃ b ∈ bs, f a = some b := by
  induction as generalizing bs with
  | nil => cases ha
  | cons first rest ih =>
    rw [List.mapM_cons] at h
    obtain ⟨b, hb, hrest⟩ := Option.bind_eq_some_iff.1 h
    obtain ⟨more, hmore, hbs⟩ := Option.bind_eq_some_iff.1 hrest
    cases hbs
    obtain rfl | ha := List.mem_cons.1 ha
    · exact ⟨b, by simp, hb⟩
    · obtain ⟨b', hb', hf⟩ := ih hmore ha
      exact ⟨b', by simp [hb'], hf⟩

/-- What does not separate stands in one of the parts. -/
theorem Parts.mem_split {α : Type} {separates : α → Bool} {as : List α} {a : α} (h : a ∈ as)
    (ha : separates a = false) : ∃ part ∈ split separates as, a ∈ part := by
  rw [← List.mem_flatten, flatten_split]
  simp [h, ha]

theorem mem_intercalate_of_mem {s : Char} {parts : List (List Char)} {part : List Char}
    (hpart : part ∈ parts) {c : Char} (hc : c ∈ part) : c ∈ [s].intercalate parts := by
  induction parts with
  | nil => cases hpart
  | cons first rest ih =>
    cases rest with
    | nil =>
      obtain rfl := List.mem_singleton.1 hpart
      simpa using hc
    | cons second rest =>
      rw [List.intercalate_cons_cons]
      obtain rfl | hrest := List.mem_cons.1 hpart
      · simp [hc]
      · exact List.mem_append_right _ (ih hrest)

/-! ### Composition -/

/-- A table is evaluated on the characters of its text. -/
theorem CharTable.ofText_eq_ofChars {text : String} {cs : List Char} (h : text = String.ofList cs) :
    ofText text = ofChars cs := by
  rw [ofText, h, String.toList_ofList]

namespace Composition

theorem pairs_without_at : pairs.all (fun p => p.first ≠ '@' && p.second ≠ '@') = true := by
  simp only [pairs, List.all_append, Bool.and_eq_true]
  refine ⟨⟨?_, ?_⟩, ?_⟩
  · rw [nested, pairsOf, CharTable.ofText_eq_ofChars rfl]
    decide +kernel
  · rw [lower, pairsOf, CharTable.ofText_eq_ofChars rfl]
    decide +kernel
  · rw [upper, pairsOf, CharTable.ofText_eq_ofChars rfl]
    decide +kernel

theorem syllable?_at (c : Char) : syllable? '@' c = none ∧ syllable? c '@' = none := by
  constructor
  · simp [syllable?, isSyllable, leadingBase, syllableBase]
  · simp [syllable?, vowelBase, trailingBase]

theorem whole?_at (c : Char) : whole? '@' c = none ∧ whole? c '@' = none := by
  have hpairs : ∀ p ∈ pairs, p.first ≠ '@' ∧ p.second ≠ '@' := by
    simpa using List.all_eq_true.1 pairs_without_at
  constructor
  · have hfind : (pairs.find? fun p => p.first = '@' && p.second = c) = none :=
      List.find?_eq_none.2 fun p hp => by simp [(hpairs p hp).1]
    simp only [whole?, (syllable?_at c).1, hfind, Option.map_none]
  · have hfind : (pairs.find? fun p => p.first = c && p.second = '@') = none :=
      List.find?_eq_none.2 fun p hp => by simp [(hpairs p hp).2]
    simp only [whole?, (syllable?_at c).2, hfind, Option.map_none]

/-- The sign is never taken in, and takes nothing in. -/
theorem at_mem_takeIn {letter : Char} {marks text : List Char}
    (h : '@' ∈ letter :: marks ++ text) : '@' ∈ takeIn letter marks text := by
  fun_induction takeIn letter marks text with
  | case1 letter marks => simpa using h
  | case2 letter marks c rest whole hwhole ih =>
    have hne : '@' ≠ letter ∧ '@' ≠ c := by
      constructor
      · rintro rfl
        simp [(whole?_at c).1] at hwhole
      · rintro rfl
        simp [(whole?_at letter).2] at hwhole
    apply ih
    simp_all
  | case3 letter marks c rest hwhole hclass ih =>
    by_cases hrest : '@' ∈ c :: rest
    · exact List.mem_append_right _ (ih (by simpa using hrest))
    · exact List.mem_append_left _ (by simp_all)
  | case4 letter marks c rest hwhole hclass ih =>
    apply ih
    simpa [or_assoc, or_comm, or_left_comm] using h

theorem at_mem_compose {cs : List Char} (h : '@' ∈ cs) : '@' ∈ compose cs := by
  have hspell : '@' ∈ cs.flatMap spell := List.mem_flatMap.2 ⟨'@', h, by decide⟩
  have horder : '@' ∈ inOrder (cs.flatMap spell) := (inOrder_perm _).mem_iff.2 hspell
  rw [← List.takeWhile_append_dropWhile (p := isLoose) (l := inOrder (cs.flatMap spell)),
    List.mem_append] at horder
  rw [compose]
  obtain hfront | hrest := horder
  · exact List.mem_append_left _ hfront
  · apply List.mem_append_right
    split
    · next hnil =>
      rw [hnil] at hrest
      exact hrest
    · next letter rest hcons =>
      rw [hcons] at hrest
      exact at_mem_takeIn (by simpa using hrest)

end Composition

/-! ### Domains -/

namespace Domain

theorem at_mem_folded? {name folded : List Char} (h : '@' ∈ name)
    (hfolded : folded? name = some folded) : '@' ∈ folded := by
  rw [folded?] at hfolded
  split at hfolded
  · cases hfolded
    exact List.mem_map.2 ⟨'@', h, by decide⟩
  · obtain ⟨parts, hparts, rfl⟩ := Option.map_eq_some_iff.1 hfolded
    apply Composition.at_mem_compose
    obtain ⟨part, hpart, hat⟩ := mem_of_mapM hparts h
    have : part = ['@'] := by
      have hmapped : mapChar? '@' = some ['@'] := by
        rw [mapChar?, if_pos (by decide)]
        rfl
      rw [hmapped] at hat
      exact (Option.some.inj hat).symm
    exact List.mem_flatten.2 ⟨part, hpart, by simp [this]⟩

theorem at_mem_encode {label : List Char} (h : '@' ∈ label) : '@' ∈ Punycode.encode label := by
  have hbasic : '@' ∈ label.filter (·.toNat < 128) := List.mem_filter.2 ⟨h, by decide⟩
  simp only [Punycode.encode]
  exact List.mem_append_left _ (List.mem_append_left _ hbasic)

theorem at_mem_ofFolded? {text : List Char} {label : Label} (h : '@' ∈ text)
    (hlabel : Label.ofFolded? text = some label) : '@' ∈ label.ascii := by
  rw [Label.ofFolded?] at hlabel
  split at hlabel
  · obtain ⟨decoded, -, rfl⟩ := Option.map_eq_some_iff.1 hlabel
    exact h
  · split at hlabel
    · cases hlabel
      exact h
    · split at hlabel
      · cases hlabel
        exact List.mem_append_right _ (at_mem_encode h)
      · cases hlabel

/-- What is looked up holds no forbidden character. -/
theorem of_ascii? {name ascii : List Char} (h : ascii? name = some ascii) :
    ∀ c ∈ ascii, isForbiddenInDomain c = false := by
  obtain ⟨folded, -, h⟩ := Option.bind_eq_some_iff.1 h
  split at h
  · cases h
  · simp only at h
    split at h
    · next hplain =>
      cases h
      simpa using (Bool.and_eq_true_iff.1 hplain).2
    · cases h

/-- No name of a domain is read from a text with the sign. -/
theorem ascii?_of_at {name : List Char} (h : '@' ∈ name) : ascii? name = none := by
  cases hascii : ascii? name with
  | none => rfl
  | some ascii =>
    have hplain := of_ascii? hascii
    obtain ⟨folded, hfolded, hrest⟩ := Option.bind_eq_some_iff.1 hascii
    split at hrest
    · cases hrest
    · next labels hlabels =>
      simp only at hrest
      split at hrest
      · obtain ⟨part, hpart, hat⟩ : ∃ part ∈ Parts.split (· = '.') folded, '@' ∈ part :=
          Parts.mem_split (at_mem_folded? h hfolded) (by decide)
        obtain ⟨label, hlabel, hread⟩ := mem_of_mapM hlabels hpart
        have : '@' ∈ ascii := by
          cases hrest
          exact mem_intercalate_of_mem (List.mem_map_of_mem hlabel) (at_mem_ofFolded? hat hread)
        exact absurd (hplain '@' this) (by decide)
      · cases hrest

end Domain

/-! ### Escapes -/

/-- Escaped text holds characters that are not escaped, and escapes. -/
theorem Percent.mem_encode {escaped : Char → Bool} {text : List Char} {c : Char}
    (h : c ∈ encode escaped text) : (c ∈ text ∧ escaped c = false) ∨ ∃ b, c ∈ byte b := by
  obtain ⟨d, hd, hc⟩ := List.mem_flatMap.1 h
  rw [encodeChar] at hc
  split at hc
  · obtain ⟨b, -, hb⟩ := List.mem_flatMap.1 hc
    exact Or.inr ⟨b, hb⟩
  · next hplain =>
    obtain rfl := List.mem_singleton.1 hc
    exact Or.inl ⟨hd, by simpa using hplain⟩

theorem Percent.plain_byte (b : UInt8) : ∀ c ∈ byte b, c ≠ '/' ∧ c ≠ '?' ∧ c ≠ '@' := by
  have hall : (byte b).all (fun c => c ≠ '/' ∧ c ≠ '?' ∧ c ≠ '@') = true := by
    apply Form.forall_byte (P := fun b =>
      (byte b).all (fun c => c ≠ '/' ∧ c ≠ '?' ∧ c ≠ '@') = true)
    decide +kernel
  simpa only [List.all_eq_true, decide_eq_true_eq] using hall

/-! ### The sign in bytes -/

/-- The sign is no part of an escape. -/
theorem Percent.at_mem_decode {bytes : Bytes} (h : 0x40 ∈ bytes) : 0x40 ∈ decode bytes := by
  have hvalue : Hex.value? (Char.ofNat (0x40 : UInt8).toNat) = none := by decide
  fun_induction decode bytes with
  | case1 => exact h
  | case2 high low rest h' l hlow hhigh ih =>
    have hne : (0x40 : UInt8) ≠ high ∧ (0x40 : UInt8) ≠ low := by
      constructor
      · rintro rfl
        rw [hvalue] at hhigh
        cases hhigh
      · rintro rfl
        rw [hvalue] at hlow
        cases hlow
    apply List.mem_cons_of_mem
    apply ih
    simpa [hne] using h
  | case3 high low rest _ ih =>
    apply List.mem_cons_of_mem
    exact ih (by simpa using h)
  | case4 rest _ => exact h
  | case5 b rest _ ih =>
    obtain heq | hrest := List.mem_cons.1 h
    · exact List.mem_cons.2 (Or.inl heq)
    · exact List.mem_cons_of_mem _ (ih hrest)

namespace Utf8

/-- The bytes that go on with a character are beyond ASCII. -/
def Awaits (p : Option Pending) : Prop := ∀ pending ∈ p, 0x80 ≤ pending.low

theorem awaits_none : Awaits none := by simp [Awaits]

theorem awaits_start (b : UInt8) : Awaits (start b).2 := by
  fun_cases start b <;> simp [Awaits]

theorem awaits_step (p : Option Pending) (b : UInt8) : Awaits (step p b).2 := by
  cases p with
  | none => exact awaits_start b
  | some pending =>
    simp only [step]
    split
    · split
      · exact awaits_none
      · simp [Awaits]
    · exact awaits_start b

/-- The sign ends whatever has been begun before it. -/
theorem at_mem_step {p : Option Pending} (hp : Awaits p) : some '@' ∈ (step p 0x40).1 := by
  have hstart : start 0x40 = ([some '@'], none) := rfl
  cases p with
  | none => simp [step, hstart]
  | some pending =>
    have hlow : ¬ pending.low ≤ 0x40 := by
      have hlow : 0x80 ≤ pending.low := hp pending rfl
      intro hle
      exact absurd (UInt8.le_trans hlow hle) (by decide)
    simp [step, hlow, hstart]

theorem decodeFrom_cons (p : Option Pending) (b : UInt8) (rest : Bytes) :
    decodeFrom p (b :: rest) = (step p b).1 ++ decodeFrom (step p b).2 rest := by
  cases p <;> rfl

theorem at_mem_decodeFrom {p : Option Pending} (hp : Awaits p) {bytes : Bytes}
    (h : 0x40 ∈ bytes) : some '@' ∈ decodeFrom p bytes := by
  induction bytes generalizing p with
  | nil => cases h
  | cons b rest ih =>
    rw [decodeFrom_cons]
    obtain rfl | hrest := List.mem_cons.1 h
    · exact List.mem_append_left _ (at_mem_step hp)
    · exact List.mem_append_right _ (ih (awaits_step p b) hrest)

end Utf8

theorem Bytes.at_mem_toStringLossy {bytes : Bytes} (h : 0x40 ∈ bytes) :
    '@' ∈ (toStringLossy bytes).toList := by
  rw [toStringLossy, String.toList_ofList]
  exact List.mem_map.2 ⟨some '@', Utf8.at_mem_decodeFrom Utf8.awaits_none h, rfl⟩

/-! ### Addresses in brackets -/

namespace Host

/-- A numeral has digits only. -/
theorem valueIn_of_at {base : Nat} {cs : List Char} (h : '@' ∈ cs) : valueIn base cs = none := by
  have hvalue : Hex.value? '@' = none := by decide
  have hfold : ∀ n, cs.foldlM (fun n c => (Hex.value? c).bind fun d =>
      if d < base then some (n * base + d) else none) n = none := by
    induction cs with
    | nil => cases h
    | cons c rest ih =>
      intro n
      rw [List.foldlM_cons]
      obtain rfl | hrest := List.mem_cons.1 h
      · rw [hvalue]
        rfl
      · cases (Hex.value? c).bind fun d => if d < base then some (n * base + d) else none with
        | none => rfl
        | some n => exact ih hrest n
  exact hfold 0

theorem hexPiece?_of_at {cs : List Char} (h : '@' ∈ cs) : hexPiece? cs = none := by
  rw [hexPiece?, valueIn_of_at h, ite_self]

/-- A list of parts cannot be read if one of them cannot. -/
theorem mapM_split_of_at {α : Type} {separates : Char → Bool} {f : List Char → Option α}
    {cs : List Char} (h : '@' ∈ cs) (hsign : separates '@' = false)
    (hf : ∀ part, '@' ∈ part → f part = none) : (Parts.split separates cs).mapM f = none := by
  cases hparts : (Parts.split separates cs).mapM f with
  | none => rfl
  | some values =>
    obtain ⟨part, hpart, hat⟩ := Parts.mem_split h hsign
    obtain ⟨value, -, hvalue⟩ := mem_of_mapM hparts hpart
    rw [hf part hat] at hvalue
    cases hvalue

theorem embeddedIpv4?_of_at {cs : List Char} (h : '@' ∈ cs) : embeddedIpv4? cs = none := by
  have hparts : (Parts.split (· = '.') cs).mapM (fun p =>
      if isDecimal p && p.length ≤ 3 && (p.length = 1 || p.head? ≠ some '0') then valueIn 10 p
      else none) = none :=
    mapM_split_of_at h (by decide) fun part hat => by rw [valueIn_of_at hat, ite_self]
  simp only [embeddedIpv4?, hparts, ite_self]

theorem mem_dropLast_or_of_getLast? {α : Type} {as : List α} {a last : α}
    (hlast : as.getLast? = some last) (h : a ∈ as) : a ∈ as.dropLast ∨ a = last := by
  rw [← List.dropLast_append_getLast? last hlast] at h
  simpa using h

theorem ipv6Pieces?_of_at {cs : List Char} (h : '@' ∈ cs) : ipv6Pieces? cs = none := by
  have hne : cs.isEmpty = false := by
    cases cs with
    | nil => cases h
    | cons c rest => rfl
  simp only [ipv6Pieces?, hne]
  cases hlast : (Parts.split (· = ':') cs).getLast? with
  | none => rfl
  | some last =>
    obtain ⟨part, hpart, hat⟩ : ∃ part ∈ Parts.split (· = ':') cs, '@' ∈ part :=
      Parts.mem_split h (by decide)
    cases hleading : (Parts.split (· = ':') cs).dropLast.mapM hexPiece? with
    | none => simp
    | some leading =>
      obtain hfront | rfl := mem_dropLast_or_of_getLast? hlast hpart
      · obtain ⟨value, -, hvalue⟩ := mem_of_mapM hleading hfront
        rw [hexPiece?_of_at hat] at hvalue
        cases hvalue
      · simp [embeddedIpv4?_of_at hat, hexPiece?_of_at hat]

/-- What stands on either side of a gap, with the gap, is the whole text. -/
theorem mem_of_splitGap {cs before after : List Char} (h : splitGap cs = some (before, after))
    {c : Char} (hc : c ∈ cs) (hcolon : c ≠ ':') : c ∈ before ∨ c ∈ after := by
  fun_induction splitGap cs generalizing before after with
  | case1 => cases h
  | case2 rest =>
    cases h
    exact Or.inr (by simpa [hcolon] using hc)
  | case3 d rest _ ih =>
    obtain ⟨⟨front, back⟩, hrest, heq⟩ := Option.map_eq_some_iff.1 h
    cases heq
    obtain rfl | hc := List.mem_cons.1 hc
    · exact Or.inl (by simp)
    · obtain hfront | hback := ih hrest hc
      · exact Or.inl (by simp [hfront])
      · exact Or.inr hback

theorem ipv6?_of_at {cs : List Char} (h : '@' ∈ cs) : ipv6? cs = none := by
  rw [ipv6?]
  split
  · rw [ipv6Pieces?_of_at h]
  · next before after hgap =>
    split
    · rfl
    · obtain hbefore | hafter := mem_of_splitGap hgap h (by decide)
      · simp only [ipv6Pieces?_of_at hbefore]
      · simp only [ipv6Pieces?_of_at hafter]
        cases ipv6Pieces? before <;> rfl

theorem ofBracketed?_of_at {cs : List Char} (h : '@' ∈ cs) : ofBracketed? cs = none := by
  rw [ofBracketed?]
  split
  · next hlast =>
    have hfront := (mem_dropLast_or_of_getLast? hlast h).resolve_right (by decide)
    rw [ipv6?_of_at hfront]
    rfl
  · rfl

/-- No host is read from a text with the sign. -/
theorem ofChars?_of_at {cs : List Char} (h : '@' ∈ cs) : ofChars? cs = none := by
  cases cs with
  | nil => cases h
  | cons c rest =>
    by_cases hc : c = '['
    · subst hc
      exact ofBracketed?_of_at (by simpa using h)
    · have hbyte : 0x40 ∈ Utf8.encode (c :: rest) :=
        List.mem_flatMap.2 ⟨'@', h, by decide⟩
      rw [ofChars?.eq_3 _ (by simp) fun rest' heq => hc (List.cons.inj heq).1,
        Domain.ascii?_of_at (Bytes.at_mem_toStringLossy (Percent.at_mem_decode hbyte))]

/-! ### The text of a host -/

/-- Nothing in the text ends a host or begins one. -/
def Plain (text : String) : Prop := ∀ c ∈ text.toList, c ≠ '/' ∧ c ≠ '?' ∧ c ≠ '@'

theorem Plain.append {a b : String} (ha : Plain a) (hb : Plain b) : Plain (a ++ b) := by
  intro c hc
  rw [String.toList_append, List.mem_append] at hc
  exact hc.elim (ha c) (hb c)

theorem Plain.intercalate {separator : String} (hseparator : Plain separator)
    {parts : List String} (h : ∀ part ∈ parts, Plain part) :
    Plain (separator.intercalate parts) := by
  induction parts with
  | nil => simp [Plain]
  | cons part parts ih =>
    cases parts with
    | nil => simpa using h
    | cons next parts =>
      rw [String.intercalate_cons_cons]
      exact ((h part (by simp)).append hseparator).append (ih fun p hp => h p (by simp [hp]))

theorem exists_digit_of_mem_toDigits {base n : Nat} (hbase : 1 < base) {c : Char}
    (h : c ∈ Nat.toDigits base n) : ∃ d < base, c = Nat.digitChar d := by
  induction n using Nat.strongRecOn with
  | _ n ih =>
    rw [Nat.toDigits_eq_if hbase] at h
    split at h
    · next hlt => exact ⟨n, hlt, List.mem_singleton.1 h⟩
    · next hge =>
      obtain hfront | hlast := List.mem_append.1 h
      · exact ih (n / base) (Nat.div_lt_self (by omega) hbase) hfront
      · exact ⟨n % base, Nat.mod_lt _ (by omega), List.mem_singleton.1 hlast⟩

theorem plain_toDigits {base n : Nat} (hbase : 1 < base ∧ base ≤ 16) :
    Plain (String.ofList (Nat.toDigits base n)) := by
  have hdigits : ∀ d < 16,
      Nat.digitChar d ≠ '/' ∧ Nat.digitChar d ≠ '?' ∧ Nat.digitChar d ≠ '@' := by decide
  intro c hc
  rw [String.toList_ofList] at hc
  obtain ⟨d, hd, rfl⟩ := exists_digit_of_mem_toDigits hbase.1 hc
  exact hdigits d (by omega)

theorem plain_toString (n : Nat) : Plain (toString n) := by
  rw [Nat.toString_eq_ofList_toDigits]
  exact plain_toDigits (by decide)

theorem plain_ipv4Text (address : Nat) : Plain (ipv4Text address) := by
  have hdot : Plain "." := by simp [Plain]
  have hpart := plain_toString
  exact ((((((hpart _).append hdot).append (hpart _)).append hdot).append (hpart _)).append
    hdot).append (hpart _)

theorem plain_hexPieces (pieces : List Nat) : Plain (hexPieces pieces) := by
  apply Plain.intercalate (by simp [Plain])
  intro part hpart
  obtain ⟨piece, -, rfl⟩ := List.mem_map.1 hpart
  exact plain_toDigits (by decide)

theorem plain_ipv6Text (pieces : List Nat) : Plain (ipv6Text pieces) := by
  have hgap : Plain "::" := by simp [Plain]
  simp only [ipv6Text]
  split
  · exact plain_hexPieces pieces
  · exact ((plain_hexPieces _).append hgap).append (plain_hexPieces _)

/-- None of the characters that a host may not have is one of the three. -/
theorem plain_of_isForbidden {cs : List Char} (h : ∀ c ∈ cs, Domain.isForbidden c = false) :
    Plain (String.ofList cs) := by
  intro c hc
  rw [String.toList_ofList] at hc
  refine ⟨?_, ?_, ?_⟩
  all_goals
    rintro rfl
    exact absurd (h _ hc) (by decide)

theorem plain_of_ofBracketed? {cs : List Char} {host : Host} (h : ofBracketed? cs = some host) :
    Plain host.text := by
  rw [ofBracketed?] at h
  split at h
  · obtain ⟨pieces, -, rfl⟩ := Option.map_eq_some_iff.1 h
    have hopen : Plain "[" := by simp [Plain]
    have hclose : Plain "]" := by simp [Plain]
    exact (hopen.append (plain_ipv6Text pieces)).append hclose
  · cases h

/-- A host with a meaning is written plainly. -/
theorem plain_of_ofChars? {cs : List Char} {host : Host} (h : ofChars? cs = some host) :
    Plain host.text := by
  rw [ofChars?.eq_def] at h
  split at h
  · cases h
  · exact plain_of_ofBracketed? h
  · split at h
    · cases h
    · cases h
    · next name hascii =>
      split at h
      · obtain ⟨address, -, rfl⟩ := Option.map_eq_some_iff.1 h
        exact plain_ipv4Text address
      · cases h
        apply plain_of_isForbidden
        intro c hc
        have := Domain.of_ascii? hascii c hc
        simp only [Domain.isForbiddenInDomain, Bool.or_eq_false_iff] at this
        exact this.1.1.1

theorem plain_of_ofOpaque? {cs : List Char} {host : Host} (h : ofOpaque? cs = some host) :
    Plain host.text := by
  rw [ofOpaque?.eq_def] at h
  split at h
  · exact plain_of_ofBracketed? h
  · split at h
    · cases h
    · next hforbidden =>
      cases h
      have hcs : Plain (String.ofList cs) := plain_of_isForbidden (by simpa using hforbidden)
      intro c hc
      rw [text, String.toList_ofList] at hc
      obtain ⟨hmem, -⟩ | ⟨b, hb⟩ := Percent.mem_encode hc
      · exact hcs c (by simpa using hmem)
      · exact Percent.plain_byte b c hb

end Host

end ServiceCall
