import Mathlib.Data.List.DropRight
import ServiceCall.Request.Http

/-!
Addresses that are written and read again. What has been read with a scheme has parts that can be
read again, and whatever is written behind its authority, the same scheme and the same authority
are read. So neither the path nor the parameters of a request lead it to another host.
-/

namespace ServiceCall

/-- Only letters have another case. -/
theorem eq_of_toLower_eq {c d : Char} (hd : d.isLower = false) (h : c.toLower = d) : c = d := by
  unfold Char.toLower at h
  split at h
  · next hupper =>
    have hlow : 65 ≤ c.val.toNat := UInt32.le_iff_toNat_le.1 hupper.1
    have hhigh : c.val.toNat ≤ 90 := UInt32.le_iff_toNat_le.1 hupper.2
    have hval : d.val.toNat = c.val.toNat + 32 := by
      have hoffset : ('a'.val - 'A'.val).toNat = 32 := by decide
      rw [← h, UInt32.toNat_add, hoffset]
      exact Nat.mod_eq_of_lt (by omega)
    unfold Char.isLower at hd
    rw [Bool.and_eq_false_iff, decide_eq_false_iff_not, decide_eq_false_iff_not, UInt32.not_le,
      UInt32.not_le, UInt32.lt_iff_toNat_lt, UInt32.lt_iff_toNat_lt] at hd
    have : 'a'.val.toNat = 97 := by decide
    have : 'z'.val.toNat = 122 := by decide
    omega
  · exact h

theorem forall_ne_of_notMem {c : Char} {text : List Char} (h : c ∉ text) :
    ∀ d ∈ text, decide (d ≠ c) = true := by
  intro d hd
  have : d ≠ c := fun heq => h (heq ▸ hd)
  simpa using this

theorem takeWhile_ne_append_cons {c : Char} {front : List Char} (h : c ∉ front)
    (rest : List Char) : (front ++ c :: rest).takeWhile (· ≠ c) = front := by
  rw [List.takeWhile_append_of_pos (forall_ne_of_notMem h)]
  simp

theorem dropWhile_ne_append_cons {c : Char} {front : List Char} (h : c ∉ front)
    (rest : List Char) : (front ++ c :: rest).dropWhile (· ≠ c) = c :: rest := by
  rw [List.dropWhile_append_of_pos (forall_ne_of_notMem h)]
  simp

namespace Scheme

/-- A scheme that is read again from its text: the two known ones have constructors of their
own. -/
def Legible : Scheme → Prop
  | .http => True
  | .https => True
  | .other name => (∀ c ∈ name.toList, Uri.isSchemeChar c = true) ∧
      name.toList.length ≤ Uri.maxSchemeLength ∧
      name.toList.map Char.toLower ≠ "http".toList ∧
      name.toList.map Char.toLower ≠ "https".toList

end Scheme

namespace Uri

/-! ### The scheme -/

theorem isSchemeChar_colon : isSchemeChar ':' = false := by decide

theorem dropIgnoringCase?_append {lead name : List Char} (h : name.map Char.toLower = lead)
    (rest : List Char) : dropIgnoringCase? lead (name ++ rest) = some rest := by
  have hlength : lead.length = name.length := by rw [← h, List.length_map]
  simp [dropIgnoringCase?, hlength, h]

/-- Letters of either case stand for a known scheme, but nothing stands for its colon. -/
theorem map_takeWhile_of_dropIgnoringCase? {lead text rest : List Char} (hlead : ':' ∉ lead)
    (h : dropIgnoringCase? (lead ++ "://".toList) text = some rest) :
    (text.takeWhile (· ≠ ':')).map Char.toLower = lead := by
  have hcolon : (fun c : Char => decide (c ≠ ':')) =
      (fun c => decide (c ≠ ':')) ∘ Char.toLower := by
    funext c
    have : c.toLower = ':' ↔ c = ':' :=
      ⟨eq_of_toLower_eq (by decide), by rintro rfl; decide⟩
    simp [this]
  simp only [dropIgnoringCase?] at h
  split at h
  · next htake =>
    have hmap : text.map Char.toLower = lead ++ ("://".toList ++
        (text.drop (lead ++ "://".toList).length).map Char.toLower) := by
      rw [← List.append_assoc, ← htake, ← List.map_append, htake, List.take_append_drop]
    rw [hcolon, ← List.takeWhile_map, hmap]
    exact takeWhile_ne_append_cons hlead _
  · cases h

/-- The name of a scheme that is neither of the known ones is taken whole. -/
theorem readScheme_other {name : String} (h : (Scheme.other name).Legible) {rest : List Char}
    (hrest : rest ≠ []) :
    readScheme (name.toList ++ ':' :: '/' :: '/' :: rest) = .present (.other name) rest := by
  obtain ⟨hchars, hlength, hhttp, hhttps⟩ := h
  have hcolon : ':' ∉ name.toList := fun hmem => absurd (hchars _ hmem) (by decide)
  have hunknown : ∀ lead : List Char, ':' ∉ lead → name.toList.map Char.toLower ≠ lead →
      dropIgnoringCase? (lead ++ "://".toList) (name.toList ++ ':' :: '/' :: '/' :: rest) =
        none := by
    intro lead hlead hne
    cases hdrop : dropIgnoringCase? (lead ++ "://".toList)
        (name.toList ++ ':' :: '/' :: '/' :: rest) with
    | none => rfl
    | some tail =>
      have := map_takeWhile_of_dropIgnoringCase? hlead hdrop
      rw [takeWhile_ne_append_cons hcolon] at this
      exact absurd this hne
  have hnone : dropIgnoringCase? "http://".toList (name.toList ++ ':' :: '/' :: '/' :: rest) =
      none := hunknown "http".toList (by decide) hhttp
  have hnones : dropIgnoringCase? "https://".toList (name.toList ++ ':' :: '/' :: '/' :: rest) =
      none := hunknown "https".toList (by decide) hhttps
  have hlong : ¬ (name.toList ++ ':' :: '/' :: '/' :: rest).length ≤ 3 := by
    have : rest.length ≠ 0 := fun h => hrest (List.length_eq_zero_iff.1 h)
    simp
    omega
  have htake : (name.toList ++ ':' :: '/' :: '/' :: rest).takeWhile isSchemeChar =
      name.toList := by
    rw [List.takeWhile_append_of_pos hchars]
    simp [isSchemeChar_colon]
  have hdrop : (name.toList ++ ':' :: '/' :: '/' :: rest).dropWhile isSchemeChar =
      ':' :: '/' :: '/' :: rest := by
    rw [List.dropWhile_append_of_pos hchars]
    simp [isSchemeChar_colon]
  simp only [readScheme, hnone, hnones, if_neg hlong, hdrop, htake,
    if_neg (Nat.not_lt.2 hlength), String.ofList_toList]

theorem readScheme_schemeText {scheme : Scheme} (h : scheme.Legible) {rest : List Char}
    (hrest : rest ≠ []) :
    readScheme ((schemeText (some scheme)).toList ++ rest) = .present scheme rest := by
  cases scheme with
  | http =>
    have hknown : dropIgnoringCase? "http://".toList ((schemeText (some .http)).toList ++ rest) =
        some rest := dropIgnoringCase?_append (by decide) rest
    simp only [readScheme, hknown]
  | https =>
    have hunknown : dropIgnoringCase? "http://".toList ((schemeText (some .https)).toList ++ rest) =
        none := rfl
    have hknown : dropIgnoringCase? "https://".toList ((schemeText (some .https)).toList ++ rest) =
        some rest := dropIgnoringCase?_append (by decide) rest
    simp only [readScheme, hunknown, hknown]
  | other name =>
    have := readScheme_other h hrest
    simpa [schemeText, Scheme.text] using this

/-- What stands before a colon and two slashes, and is not one of the known schemes, can be read
again as a scheme. -/
theorem legible_other {text rest : List Char}
    (hdrop : text.dropWhile isSchemeChar = ':' :: '/' :: '/' :: rest)
    (hhttp : dropIgnoringCase? "http://".toList text = none)
    (hhttps : dropIgnoringCase? "https://".toList text = none)
    (hlength : (text.takeWhile isSchemeChar).length ≤ maxSchemeLength) :
    (Scheme.other (String.ofList (text.takeWhile isSchemeChar))).Legible := by
  have htext : text = text.takeWhile isSchemeChar ++ ("://".toList ++ rest) := by
    conv_lhs => rw [← List.takeWhile_append_dropWhile (p := isSchemeChar) (l := text)]
    rw [hdrop]
    rfl
  have hunknown : ∀ lead : List Char, dropIgnoringCase? (lead ++ "://".toList) text = none →
      (text.takeWhile isSchemeChar).map Char.toLower ≠ lead := by
    intro lead hnone hlead
    have hknown : dropIgnoringCase? (lead ++ "://".toList) text = some rest := by
      rw [htext, ← List.append_assoc]
      apply dropIgnoringCase?_append
      rw [List.map_append, hlead]
      rfl
    rw [hnone] at hknown
    cases hknown
  simp only [Scheme.Legible, String.toList_ofList]
  exact ⟨fun c hc => List.mem_takeWhile_imp hc, hlength, hunknown _ hhttp, hunknown _ hhttps⟩

/-- What has been read as a scheme is read so again. -/
theorem legible_of_readScheme {text rest : List Char} {scheme : Scheme}
    (h : readScheme text = .present scheme rest) : scheme.Legible := by
  simp only [readScheme] at h
  split at h
  · cases h
    exact trivial
  · next hhttp =>
    split at h
    · cases h
      exact trivial
    · next hhttps =>
      split at h
      · cases h
      · split at h
        · next tail hdrop =>
          split at h
          · cases h
          · next hlength =>
            cases h
            exact legible_other hdrop hhttp hhttps (Nat.not_lt.1 hlength)
        · cases h

/-! ### The authority -/

/-- A name that is read as an authority when an address goes on behind it. -/
structure IsAuthority (name : List Char) : Prop where
  nonempty : name ≠ []
  endless : ∀ c ∈ name, endsAuthority c = false
  accepted : ∃ scan, name.foldlM AuthorityScan.step? {} = some scan ∧ scan.accepts = true

theorem readAuthority?_append {name : List Char} (h : IsAuthority name) (rest : List Char) :
    readAuthority? (name ++ '/' :: rest) = some (name, '/' :: rest) := by
  have hplain : ∀ c ∈ name, (!endsAuthority c) = true := fun c hc => by simp [h.endless c hc]
  have hslash : endsAuthority '/' = true := by decide
  obtain ⟨scan, hscan, haccepts⟩ := h.accepted
  simp [readAuthority?, List.takeWhile_append_of_pos hplain, List.dropWhile_append_of_pos hplain,
    hslash, hscan, haccepts]

/-- The authority is all that stands before a slash, a question mark or a number sign. -/
theorem of_readAuthority? {text name rest : List Char}
    (h : readAuthority? text = some (name, rest)) (hname : name ≠ []) :
    IsAuthority name ∧ rest = text.dropWhile (!endsAuthority ·) := by
  simp only [readAuthority?] at h
  split at h
  · next scan hscan =>
    split at h
    · next haccepts =>
      cases h
      exact ⟨⟨hname, fun c hc => by simpa using List.mem_takeWhile_imp hc, scan, hscan, haccepts⟩,
        rfl⟩
    · cases h
  · cases h

/-! ### Path and query -/

theorem chars_of_readPathAndQuery? {text : List Char} {path : String} {query : Option String}
    (h : readPathAndQuery? text = some (path, query)) :
    path.toList = (text.takeWhile (· ≠ '#')).takeWhile (· ≠ '?') ∧
      (∀ c ∈ path.toList, isPathChar c = true) ∧
      ∀ q, query = some q → ∀ c ∈ q.toList, isQueryChar c = true := by
  simp only [readPathAndQuery?] at h
  split at h
  · cases h
  · next hpath =>
    have hpath : ∀ c ∈ (text.takeWhile (· ≠ '#')).takeWhile (· ≠ '?'), isPathChar c = true := by
      simpa using hpath
    split at h
    · cases h
      exact ⟨String.toList_ofList, by simpa using hpath, by simp⟩
    · split at h
      · next hquery =>
        cases h
        refine ⟨String.toList_ofList, by simpa using hpath, ?_⟩
        rintro q ⟨⟩
        simpa using hquery
      · cases h

/-- Behind an authority there is a path from the root, or none. -/
theorem path_of_dropWhile (text : List Char) {path : List Char}
    (h : path = ((text.dropWhile (!endsAuthority ·)).takeWhile (· ≠ '#')).takeWhile (· ≠ '?')) :
    path = [] ∨ ∃ tail, path = '/' :: tail := by
  subst h
  have hhead := List.head?_dropWhile_not (!endsAuthority ·) text
  cases hrest : text.dropWhile (!endsAuthority ·) with
  | nil => simp
  | cons c rest =>
    simp only [hrest, List.head?_cons, Bool.not_eq_false'] at hhead
    simp only [endsAuthority, Bool.or_eq_true, decide_eq_true_eq] at hhead
    obtain (rfl | rfl) | rfl := hhead <;> simp

theorem slash_of_readPathAndQuery? {rest : List Char} {path : String} {query : Option String}
    (h : readPathAndQuery? ('/' :: rest) = some (path, query)) :
    ∃ tail, path.toList = '/' :: tail := by
  obtain ⟨hpath, -, -⟩ := chars_of_readPathAndQuery? h
  exact ⟨_, by simpa using hpath⟩

/-! ### Addresses with a scheme -/

theorem readScheme_slash (rest : List Char) : readScheme ('/' :: rest) = .absent := by
  have hhttp : dropIgnoringCase? "http://".toList ('/' :: rest) = none := by
    simp [dropIgnoringCase?]
  have hhttps : dropIgnoringCase? "https://".toList ('/' :: rest) = none := by
    simp [dropIgnoringCase?]
  have hdrop : ('/' :: rest).dropWhile isSchemeChar = '/' :: rest := by
    have : isSchemeChar '/' = false := by decide
    simp [this]
  simp only [readScheme, hhttp, hhttps, hdrop]
  split <;> rfl

theorem ofChars?_of_readScheme {text rest name tail : List Char} {scheme : Scheme}
    (h : readScheme text = .present scheme rest) (hname : name ≠ [])
    (hauthority : readAuthority? rest = some (name, tail)) :
    ofChars? text = (readPathAndQuery? tail).map fun (path, query) =>
      ⟨some scheme, String.ofList name, if path.isEmpty then "/" else path, query⟩ := by
  have hslash : ∀ tail, text ≠ '/' :: tail := by
    rintro tail rfl
    rw [readScheme_slash] at h
    cases h
  have hempty : readScheme [] = .absent := rfl
  have hstar : readScheme ['*'] = .absent := rfl
  rw [ofChars?.eq_def]
  split
  · exact absurd (hempty.symm.trans h) (by simp)
  · exact absurd (hstar.symm.trans h) (by simp)
  · next tail => exact absurd rfl (hslash tail)
  · simp only [h]
    cases name with
    | nil => exact absurd rfl hname
    | cons c name => simp only [hauthority]

/-- An address with a scheme as it is read: every part is read again from its own text. -/
structure Absolute (u : Uri) : Prop where
  scheme : ∃ s, u.scheme = some s ∧ s.Legible
  authority : IsAuthority u.authority.toList
  rooted : ∃ tail, u.path.toList = '/' :: tail
  path : ∀ c ∈ u.path.toList, isPathChar c = true
  query : ∀ q, u.query = some q → ∀ c ∈ q.toList, isQueryChar c = true

theorem absolute_of_ofChars? {text : List Char} {u : Uri} (h : ofChars? text = some u)
    (hscheme : u.scheme.isSome) : u.Absolute := by
  simp only [ofChars?] at h
  split at h
  · cases h
  · cases h
    exact absurd hscheme (by simp)
  · obtain ⟨parts, -, rfl⟩ := Option.map_eq_some_iff.1 h
    exact absurd hscheme (by simp)
  · split at h
    · cases h
    · split at h
      · cases h
        exact absurd hscheme (by simp)
      · cases h
    · next scheme rest hread =>
      split at h
      · cases h
      · next name tail hname hauthority =>
        obtain ⟨⟨path, query⟩, hparts, rfl⟩ := Option.map_eq_some_iff.1 h
        obtain ⟨hwhole, htail⟩ := of_readAuthority? hauthority (fun h => hname h)
        obtain ⟨hpath, hpathChars, hqueryChars⟩ := chars_of_readPathAndQuery? hparts
        have hempty : path.isEmpty = false → path.toList ≠ [] := by simp
        refine ⟨⟨scheme, rfl, legible_of_readScheme hread⟩, by simpa using hwhole, ?_, ?_,
          hqueryChars⟩
        · cases hpathEmpty : path.isEmpty with
          | true => exact ⟨[], by simp⟩
          | false =>
            have hrooted := path_of_dropWhile rest (htail ▸ hpath)
            simpa using hrooted.resolve_left (hempty hpathEmpty)
        · cases hpathEmpty : path.isEmpty with
          | true => simp [isPathChar]
          | false => simpa using hpathChars
      · cases h

theorem absolute_of_ofString? {text : String} {u : Uri} (h : ofString? text = some u)
    (hscheme : u.scheme.isSome) : u.Absolute := by
  rw [ofString?] at h
  split at h
  · cases h
  · exact absolute_of_ofChars? h hscheme

/-- The text of an address up to the end of its authority. -/
def lead (u : Uri) : List Char := (schemeText u.scheme).toList ++ u.authority.toList

theorem toList_text (u : Uri) :
    u.text.toList = u.lead ++ (u.path.toList ++ (queryText u.query).toList) := by
  simp [text, lead]

namespace Absolute

variable {u : Uri} (h : u.Absolute)

include h

theorem lead_concat : ∃ front last, u.lead = front ++ [last] ∧ last ≠ '/' := by
  have hname := h.authority.nonempty
  refine ⟨(schemeText u.scheme).toList ++ u.authority.toList.dropLast,
    u.authority.toList.getLast hname, ?_, ?_⟩
  · rw [List.append_assoc, List.dropLast_concat_getLast, lead]
  · rintro heq
    have := h.authority.endless _ (List.getLast_mem hname)
    rw [heq] at this
    exact absurd this (by decide)

/-- Neither query nor fragment begins before the end of the authority. -/
theorem lead_inside : '?' ∉ u.lead ∧ '#' ∉ u.lead := by
  obtain ⟨scheme, hscheme, hlegible⟩ := h.scheme
  have htext : '?' ∉ scheme.text.toList ∧ '#' ∉ scheme.text.toList := by
    cases scheme with
    | http => decide
    | https => decide
    | other name =>
      exact ⟨fun hmem => absurd (hlegible.1 _ hmem) (by decide),
        fun hmem => absurd (hlegible.1 _ hmem) (by decide)⟩
  have hname : '?' ∉ u.authority.toList ∧ '#' ∉ u.authority.toList :=
    ⟨fun hmem => absurd (h.authority.endless _ hmem) (by decide),
      fun hmem => absurd (h.authority.endless _ hmem) (by decide)⟩
  simp [lead, schemeText, hscheme, htext, hname]

theorem sign_notMem_tail : '#' ∉ u.path.toList ++ (queryText u.query).toList := by
  rw [List.mem_append]
  rintro (hpath | hquery)
  · exact absurd (h.path _ hpath) (by decide)
  · cases hq : u.query with
    | none => simp [hq, queryText] at hquery
    | some q =>
      have : '#' ∈ q.toList := by simpa [hq, queryText] using hquery
      exact absurd (h.query q hq _ this) (by decide)

/-- Whatever follows the authority, its scheme and its authority are read. -/
theorem ofChars?_lead (rest : List Char) :
    ofChars? (u.lead ++ '/' :: rest) = (readPathAndQuery? ('/' :: rest)).map
      fun (path, query) => ⟨u.scheme, u.authority, path, query⟩ := by
  obtain ⟨scheme, hscheme, hlegible⟩ := h.scheme
  have hread : readScheme (u.lead ++ '/' :: rest) =
      .present scheme (u.authority.toList ++ '/' :: rest) := by
    rw [lead, hscheme, List.append_assoc]
    exact readScheme_schemeText hlegible (by simp)
  rw [ofChars?_of_readScheme hread h.authority.nonempty (readAuthority?_append h.authority rest),
    hscheme, String.ofList_toList]
  cases hparts : readPathAndQuery? ('/' :: rest) with
  | none => rfl
  | some parts =>
    obtain ⟨tail, htail⟩ := slash_of_readPathAndQuery? hparts
    have hsome : parts.1 ≠ "" := by
      intro hempty
      simp [hempty] at htail
    simp [hsome]

theorem of_ofString? {rest : List Char} {v : Uri}
    (hread : ofString? (String.ofList (u.lead ++ '/' :: rest)) = some v) :
    ∃ path query, readPathAndQuery? ('/' :: rest) = some (path, query) ∧
      v = ⟨u.scheme, u.authority, path, query⟩ := by
  rw [ofString?, String.toList_ofList, h.ofChars?_lead] at hread
  split at hread
  · cases hread
  · obtain ⟨⟨path, query⟩, hparts, rfl⟩ := Option.map_eq_some_iff.1 hread
    exact ⟨path, query, hparts, rfl⟩

/-- A front of an address that has been read is not too long to be read. -/
theorem ofString?_front {rest more : List Char} {v : Uri}
    (hread : ofString? (String.ofList (u.lead ++ '/' :: (rest ++ more))) = some v)
    {path : String} {query : Option String}
    (hparts : readPathAndQuery? ('/' :: rest) = some (path, query)) :
    ofString? (String.ofList (u.lead ++ '/' :: rest)) =
      some ⟨u.scheme, u.authority, path, query⟩ := by
  have hsize : (String.ofList (u.lead ++ '/' :: rest)).utf8ByteSize ≤
      (String.ofList (u.lead ++ '/' :: (rest ++ more))).utf8ByteSize := by
    have htext : u.lead ++ '/' :: (rest ++ more) = (u.lead ++ '/' :: rest) ++ more := by simp
    rw [htext, @String.ofList_append (u.lead ++ '/' :: rest), String.utf8ByteSize_append]
    exact Nat.le_add_right _ _
  rw [ofString?] at hread
  split at hread
  · cases hread
  · next hlong =>
    rw [ofString?, if_neg (fun h => hlong (Nat.lt_of_lt_of_le h hsize)), String.toList_ofList,
      h.ofChars?_lead, hparts]
    rfl

end Absolute

end Uri

namespace Address

/-! ### What is written behind an endpoint -/

variable {endpoint : Uri}

theorem trimEnd_eq_rdropWhile (c : Char) (text : List Char) :
    trimEnd c text = text.rdropWhile (· = c) := rfl

theorem trimEnd_append {front : List Char} {last : Char} (hlast : last ≠ '/') (rest : List Char) :
    trimEnd '/' (front ++ [last] ++ rest) = front ++ [last] ++ trimEnd '/' rest := by
  induction rest using List.reverseRecOn with
  | nil => simp [trimEnd, hlast]
  | append_singleton rest c ih =>
    rw [← List.append_assoc]
    by_cases hc : c = '/'
    · subst hc
      simpa only [trimEnd_eq_rdropWhile, List.rdropWhile_concat, decide_true, if_true] using ih
    · simp only [trimEnd_eq_rdropWhile, List.rdropWhile_concat, hc, decide_false]
      simp

/-- Text that is empty or goes on from the root. -/
def Rooted (text : List Char) : Prop := text = [] ∨ ∃ tail, text = '/' :: tail

theorem Rooted.trimEnd {text : List Char} (h : Rooted text) : Rooted (trimEnd '/' text) := by
  obtain rfl | ⟨tail, rfl⟩ := h
  · exact Or.inl rfl
  · obtain ⟨rest, hrest⟩ := List.rdropWhile_prefix (p := (· = '/')) (l := '/' :: tail)
    cases hcut : List.rdropWhile (fun c => decide (c = '/')) ('/' :: tail) with
    | nil => exact Or.inl hcut
    | cons c front =>
      rw [hcut] at hrest
      cases hrest
      exact Or.inr ⟨front, hcut⟩

theorem mem_trimEnd {c : Char} {text : List Char} (h : c ∈ trimEnd '/' text) : c ∈ text :=
  (List.rdropWhile_prefix (· = '/') text).subset h

theorem joinPath_of_ne_nil {base : List Char} (h : trimEnd '/' base ≠ []) {path : List Char}
    (hpath : path.dropWhile (· = '/') ≠ []) :
    joinPath base path = trimEnd '/' base ++ '/' :: path.dropWhile (· = '/') := by
  simp [joinPath, h, hpath]

theorem joinPath_of_slashes {base path : List Char} (h : path.dropWhile (· = '/') = []) :
    joinPath base path = trimEnd '/' base := by
  simp [joinPath, h]

theorem endsWithSlash_trimEnd (text : List Char) : endsWithSlash (trimEnd '/' text) = false := by
  rw [endsWithSlash, decide_eq_false_iff_not]
  intro hlast
  have hne : trimEnd '/' text ≠ [] := by
    rintro hempty
    simp [hempty] at hlast
  have := List.rdropWhile_last_not (· = '/') text hne
  rw [List.getLast?_eq_some_getLast hne] at hlast
  simp [← trimEnd_eq_rdropWhile, Option.some.inj hlast] at this

/-- Between the endpoint and the path stands one slash. -/
theorem below_eq_append (hends : trimEnd '/' endpoint.text.toList ≠ []) (path : String) :
    ∃ more, below endpoint path = trimEnd '/' endpoint.text.toList ++ '/' :: more ∧
      ∀ c ≠ '/', c ∈ more ↔ c ∈ path.toList := by
  have hkept : ∀ c ≠ '/', c ∈ path.toList.dropWhile (· = '/') ↔ c ∈ path.toList := by
    intro c hc
    have hslashes : c ∉ path.toList.takeWhile (· = '/') := fun hmem =>
      hc (by simpa using List.mem_takeWhile_imp hmem)
    conv_rhs => rw [← List.takeWhile_append_dropWhile (p := (· = '/')) (l := path.toList)]
    rw [List.mem_append, or_iff_right hslashes]
  have hslash : endsWithSlash (trimEnd '/' endpoint.text.toList) = false :=
    endsWithSlash_trimEnd _
  by_cases hpath : path.toList.dropWhile (· = '/') = []
  · have hall : ∀ c ∈ path.toList, c = '/' := by simpa using hpath
    have hcond : (path.isEmpty || endsWithSlash path.toList) = true := by
      cases hlast : path.toList.getLast? with
      | none => simp_all
      | some c => simp [endsWithSlash, hlast, hall c (List.mem_of_getLast? hlast)]
    refine ⟨[], ?_, ?_⟩
    · simp only [below, joinPath_of_slashes hpath, hcond, hslash]
      simp
    · intro c hc
      rw [← hkept c hc, hpath]
  · simp only [below, joinPath_of_ne_nil hends hpath]
    split
    · refine ⟨path.toList.dropWhile (· = '/') ++ ['/'], by simp, ?_⟩
      intro c hc
      simp [hkept c hc, hc]
    · exact ⟨_, rfl, hkept⟩

/-- An address goes on from the root behind the authority of its endpoint. A number sign in it
is one of the path. -/
theorem below_eq (h : endpoint.Absolute) (path : String) :
    ∃ tail, below endpoint path = endpoint.lead ++ '/' :: tail ∧
      ('#' ∈ tail ↔ '#' ∈ path.toList) := by
  obtain ⟨front, last, hlead, hlast⟩ := h.lead_concat
  -- What is left of the endpoint behind its authority when the slashes at its end are gone.
  let rest := trimEnd '/' (endpoint.path.toList ++ (Uri.queryText endpoint.query).toList)
  have hbase : trimEnd '/' endpoint.text.toList = endpoint.lead ++ rest := by
    rw [Uri.toList_text, hlead, trimEnd_append hlast]
  have hrest : Rooted rest := by
    obtain ⟨tail, htail⟩ := h.rooted
    exact Rooted.trimEnd (Or.inr ⟨_, by rw [htail, List.cons_append]⟩)
  have hsign : '#' ∉ rest := fun hmem => h.sign_notMem_tail (mem_trimEnd hmem)
  have hends : trimEnd '/' endpoint.text.toList ≠ [] := by simp [hbase, hlead]
  obtain ⟨more, hbelow, hmem⟩ := below_eq_append hends path
  rw [hbase] at hbelow
  have hmem : '#' ∈ more ↔ '#' ∈ path.toList := hmem '#' (by decide)
  obtain hnil | ⟨tail, htail⟩ := hrest
  · exact ⟨more, by rw [hbelow, hnil, List.append_nil], hmem⟩
  · refine ⟨tail ++ '/' :: more, by simp [hbelow, htail], ?_⟩
    have : '#' ∉ tail := fun hmem => hsign (by simp [htail, hmem])
    simp [this, hmem]

/-- Parameters are written behind the path. -/
theorem withQuery_append (text : List Char) (query : Option String) :
    ∃ more, withQuery text query = text ++ more := by
  cases query with
  | none => exact ⟨[], by simp [withQuery]⟩
  | some query => exact ⟨_, rfl⟩

end Address

namespace HttpRequest

variable {σ : Type} {r : HttpRequest σ}

theorem addressText_eq (h : r.endpoint.Absolute) (withParameters : Bool) :
    ∃ tail, r.addressText withParameters = r.endpoint.lead ++ '/' :: tail := by
  obtain ⟨tail, htail, -⟩ := Address.below_eq h r.path
  obtain ⟨more, hmore⟩ := Address.withQuery_append (Address.below r.endpoint r.path)
    (if withParameters then r.encodedParameters? else none)
  exact ⟨tail ++ more, by rw [addressText, hmore, htail, List.append_assoc, List.cons_append]⟩

theorem address_eq_ok_iff (hredirect : r.redirectTarget = none) {withParameters : Bool} {u : Uri} :
    r.address withParameters = .ok u ↔
      Uri.ofString? (String.ofList (r.addressText withParameters)) = some u := by
  simp only [address, hredirect]
  cases Uri.ofString? (String.ofList (r.addressText withParameters)) <;> simp

theorem authority_of_address (h : r.endpoint.Absolute) (hredirect : r.redirectTarget = none)
    {withParameters : Bool} {u : Uri} (haddress : r.address withParameters = .ok u) :
    u.scheme = r.endpoint.scheme ∧ u.authority = r.endpoint.authority := by
  obtain ⟨tail, htext⟩ := addressText_eq h withParameters
  rw [address_eq_ok_iff hredirect, htext] at haddress
  obtain ⟨path, query, -, rfl⟩ := h.of_ofString? haddress
  exact ⟨rfl, rfl⟩

/-- Neither path nor parameters lead a request to another host. Whatever text they are, an address
of the request that can be read has the scheme and the authority of its endpoint, which has been
read with a scheme. -/
theorem host_of_address {written : String} (hread : Uri.ofString? written = some r.endpoint)
    (hscheme : r.endpoint.scheme.isSome) (hredirect : r.redirectTarget = none) {u : Uri}
    (haddress : r.fullUri = .ok u ∨ r.bareUri = .ok u) :
    u.scheme = r.endpoint.scheme ∧ u.authority = r.endpoint.authority := by
  have habsolute := Uri.absolute_of_ofString? hread hscheme
  obtain hfull | hbare := haddress
  · exact authority_of_address habsolute hredirect hfull
  · exact authority_of_address habsolute hredirect hbare

/-- A request whose path reads like an address of another host. -/
def astray : HttpRequest Unit :=
  { subject := default, method := Method.post,
    endpoint := ⟨some .https, "user@api.example.com:8443", "/base/", some "k=1"⟩,
    path := "//other.example.com@evil/?#http://",
    parameters := Parameters.add {} "host" "@elsewhere" }

theorem host_of_astray :
    Uri.ofString? "HTTPS://user@api.example.com:8443/base/?k=1" = some astray.endpoint ∧
      ∃ u, astray.fullUri = .ok u ∧
        u.scheme = some .https ∧ u.authority = "user@api.example.com:8443" := by
  have hread : Uri.ofString? "HTTPS://user@api.example.com:8443/base/?k=1" =
      some astray.endpoint := by decide +kernel
  have hfull : astray.fullUri = .ok ⟨some .https, "user@api.example.com:8443", "/base/",
      some "k=1/other.example.com@evil/?"⟩ := by rfl
  exact ⟨hread, _, hfull, host_of_address hread rfl rfl (Or.inl hfull)⟩

end HttpRequest

end ServiceCall
