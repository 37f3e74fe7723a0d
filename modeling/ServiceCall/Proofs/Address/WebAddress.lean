import ServiceCall.Address
import ServiceCall.Proofs.Address.Hosts

/-!
Web addresses that are read from a text alone. Their scheme and their host are plain, their path
asks for nothing, and redacting leaves none of their user part. So no address that is shown has a
query, whatever text it comes from.
-/

namespace ServiceCall

/-! ### Paths -/

/-- Nothing in the names begins a query. -/
def Unasked (names : List String) : Prop := ∀ name ∈ names, '?' ∉ name.toList

theorem unasked_nil : Unasked [] := by simp [Unasked]

theorem Unasked.append {names more : List String} (h : Unasked names) (hmore : Unasked more) :
    Unasked (names ++ more) := by
  intro name hname
  exact (List.mem_append.1 hname).elim (h name) (hmore name)

theorem Unasked.concat {names : List String} (h : Unasked names) {name : String}
    (hname : '?' ∉ name.toList) : Unasked (names ++ [name]) :=
  h.append (by simpa [Unasked] using hname)

theorem Unasked.subset {names more : List String} (h : Unasked names) (hsub : more ⊆ names) :
    Unasked more := fun name hname => h name (hsub hname)

theorem mark_notMem_escape {escaped : Char → Bool} {cs : List Char}
    (h : '?' ∉ cs ∨ escaped '?' = true) : '?' ∉ (Url.escape escaped cs).toList := by
  intro hmem
  rw [Url.escape, String.toList_ofList] at hmem
  obtain ⟨hcs, hplain⟩ | ⟨b, hb⟩ := Percent.mem_encode hmem
  · obtain h | h := h
    · exact h hcs
    · rw [h] at hplain
      cases hplain
  · exact (Percent.plain_byte b '?' hb).2.1 rfl

namespace Segments

theorem parent_subset (names : List String) : parent names ⊆ names := by
  rw [parent]
  split
  · exact List.Subset.refl names
  · exact List.dropLast_subset names

theorem afterDots?_subset {names left : List String} {segment : List Char}
    (h : afterDots? names segment = some left) : left ⊆ names := by
  simp only [afterDots?] at h
  split at h
  · cases h
    exact parent_subset names
  · split at h
    · cases h
      exact List.Subset.refl names
    · cases h

theorem unasked_append {names : List String} (h : Unasked names) (segments : List (List Char)) :
    Unasked (append names segments) := by
  induction segments generalizing names with
  | nil => exact h
  | cons segment rest ih =>
    simp only [append]
    split
    · next left hdots =>
      have hleft := h.subset (afterDots?_subset hdots)
      split
      · exact hleft.concat (by simp)
      · exact ih hleft
    · exact ih (h.concat (mark_notMem_escape (Or.inr (by decide))))

theorem unasked_rooted (special : Bool) (text : List Char) : Unasked (rooted special text) := by
  rw [rooted]
  split
  · exact unasked_nil
  · exact unasked_append unasked_nil _

theorem unasked_dropEmptyHead {names : List String} (h : Unasked names) :
    Unasked (dropEmptyHead names) := by
  fun_induction dropEmptyHead names with
  | case1 name rest ih => exact ih (h.subset (List.subset_cons_self _ _))
  | case2 => exact h

end Segments

namespace FilePath

theorem unasked_push {p : FilePath} (h : Unasked p.names) (name : List Char) :
    Unasked (p.push name).names :=
  h.concat (mark_notMem_escape (Or.inr (by decide)))

/-- A drive is kept as it is written. -/
theorem unasked_add {p : FilePath} (h : Unasked p.names) {segment : List Char}
    (hsegment : '?' ∉ segment) : Unasked (p.add segment).names := by
  rw [add]
  split
  · exact unasked_push h segment
  · split
    · have : '?' ∉ segment.take 1 := fun hmem => hsegment (List.mem_of_mem_take hmem)
      simpa [Unasked, Segments.withColon] using this
    · split
      · exact unasked_push (unasked_push h _) _
      · exact unasked_push h segment

theorem unasked_append {p : FilePath} (h : Unasked p.names) {segments : List (List Char)}
    (hsegments : ∀ segment ∈ segments, '?' ∉ segment) : Unasked (append p segments).names := by
  induction segments generalizing p with
  | nil => exact h
  | cons segment rest ih =>
    have hrest : ∀ segment ∈ rest, '?' ∉ segment := fun s hs => hsegments s (by simp [hs])
    simp only [append]
    split
    · next left hdots =>
      have hleft := h.subset (Segments.afterDots?_subset hdots)
      split
      · exact hleft.concat (by simp)
      · exact ih hleft hrest
    · exact ih (unasked_add h (hsegments segment (by simp))) hrest

theorem unasked_below {text : List Char} (h : '?' ∉ text) : Unasked (below [] text).names := by
  apply unasked_append unasked_nil
  intro segment hsegment hmem
  have hflat : '?' ∈ (Parts.split (Segments.isSlash true) text).flatten :=
    List.mem_flatten.2 ⟨segment, hsegment, hmem⟩
  rw [Parts.flatten_split] at hflat
  exact h (List.mem_of_mem_filter hflat)

end FilePath

namespace Url

/-! ### The user part -/

/-- An address whose user part redacting takes away: it has none, or it has a host of which the
user part is written in front. -/
def Nameless (w : Url) : Prop :=
  (w.username = "" ∧ w.password = "") ∨
    ∃ host, w.host = some host ∧ host.isEmpty = false ∧ w.scheme ≠ "file"

theorem userText_redacted {w : Url} (h : w.Nameless) : w.redacted.userText = "" := by
  obtain ⟨husername, hpassword⟩ | ⟨host, hhost, hempty, hscheme⟩ := h
  · simp [redacted, userText, husername, hpassword]
  · simp [redacted, userText, hhost, hempty, hscheme]

/-! ### What is read -/

structure Tidy (w : Url) : Prop where
  scheme : Host.Plain w.scheme
  host : ∀ host, w.host = some host → Host.Plain host.text
  nameless : w.Nameless
  path : match w.path with
    | .verbatim text => '?' ∉ text.toList
    | .segments names => Unasked names

def isSchemePart (c : Char) : Bool := c.isAlphanum || c = '+' || c = '-' || c = '.'

/-- A name that is read as a scheme when a colon follows it. -/
structure IsScheme (name : List Char) : Prop where
  head : ∃ c rest, name = c :: rest ∧ c.isAlpha = true
  parts : ∀ c ∈ name, isSchemePart c = true

theorem readScheme?_cons (c : Char) (cs : List Char) :
    readScheme? (c :: cs) =
      if !c.isAlpha then none
      else
        match (c :: cs).dropWhile isSchemePart with
        | ':' :: rest =>
          some (String.ofList (((c :: cs).takeWhile isSchemePart).map Char.toLower), rest)
        | _ => none := rfl

theorem readScheme?_eq_some_iff {text rest : List Char} {scheme : String} :
    readScheme? text = some (scheme, rest) ↔
      ∃ name, IsScheme name ∧ text = name ++ ':' :: rest ∧
        scheme = String.ofList (name.map Char.toLower) := by
  constructor
  · intro h
    cases text with
    | nil => cases h
    | cons c cs =>
      rw [readScheme?_cons] at h
      split at h
      · cases h
      · next halpha =>
        have halpha : c.isAlpha = true := by simpa using halpha
        have hpart : isSchemePart c = true := by simp [isSchemePart, Char.isAlphanum, halpha]
        split at h
        · next tail hdrop =>
          cases h
          refine ⟨(c :: cs).takeWhile isSchemePart, ⟨⟨c, cs.takeWhile isSchemePart, ?_, halpha⟩,
            fun d hd => List.mem_takeWhile_imp hd⟩, ?_, rfl⟩
          · simp [hpart]
          · rw [← hdrop, List.takeWhile_append_dropWhile]
        · cases h
  · rintro ⟨name, ⟨⟨c, cs, rfl, halpha⟩, hparts⟩, rfl, rfl⟩
    have hcolon : isSchemePart ':' = false := by decide
    have htake : (c :: cs ++ ':' :: rest).takeWhile isSchemePart = c :: cs := by
      rw [List.takeWhile_append_of_pos hparts]
      simp [hcolon]
    have hdrop : (c :: cs ++ ':' :: rest).dropWhile isSchemePart = ':' :: rest := by
      rw [List.dropWhile_append_of_pos hparts]
      simp [hcolon]
    rw [List.cons_append] at htake hdrop ⊢
    rw [readScheme?_cons, hdrop, htake]
    simp [halpha]

/-- A scheme in lower case. -/
theorem plain_scheme {name : List Char} (h : IsScheme name) :
    Host.Plain (String.ofList (name.map Char.toLower)) ∧ ':' ∉ name.map Char.toLower := by
  have hpart : ∀ c ∈ name.map Char.toLower, c ≠ '/' ∧ c ≠ '?' ∧ c ≠ '@' ∧ c ≠ ':' := by
    intro c hc
    obtain ⟨d, hd, rfl⟩ := List.mem_map.1 hc
    have hd := h.parts d hd
    refine ⟨?_, ?_, ?_, ?_⟩
    all_goals
      intro heq
      rw [eq_of_toLower_eq (by decide) heq] at hd
      exact absurd hd (by decide)
  rw [Host.Plain, String.toList_ofList]
  exact ⟨fun c hc => ⟨(hpart c hc).1, (hpart c hc).2.1, (hpart c hc).2.2.1⟩,
    fun hc => (hpart ':' hc).2.2.2 rfl⟩

theorem readUser_nil : readUser [] = ("", "") := rfl

/-- The user part of the text of an authority: all in front of its last sign. -/
theorem user_of_notMem {text : List Char} (h : '@' ∉ text) :
    ((text.reverse.dropWhile (· ≠ '@')).drop 1).reverse = [] := by
  have hnone : text.reverse.dropWhile (· ≠ '@') = [] :=
    List.dropWhile_eq_nil_iff.2 (forall_ne_of_notMem (by simpa using h))
  rw [hnone]
  rfl

theorem of_readAuthority? {scheme : String} {text left : List Char} {w : Url}
    (h : readAuthority? scheme text = some (w, left)) (hfile : scheme ≠ "file") :
    w.scheme = scheme ∧ w.Nameless ∧ ∃ host, w.host = some host ∧ Host.Plain host.text := by
  simp only [readAuthority?] at h
  split at h
  · next host port rest hhost hport =>
    split at h
    · cases h
    · next hfound =>
      cases h
      refine ⟨rfl, ?_, host, rfl, ?_⟩
      · cases hempty : host.isEmpty with
        | false => exact Or.inr ⟨host, rfl, hempty, hfile⟩
        | true =>
          have hsign : '@' ∉ text := by
            intro hmem
            exact hfound (by simp [hempty, hmem])
          exact Or.inl (by simp only [user_of_notMem hsign, readUser_nil, and_self])
      · split at hhost
        · exact Host.plain_of_ofChars? hhost
        · exact Host.plain_of_ofOpaque? hhost
  · cases h

theorem tidy_readAfterSlashes? {scheme : String} {text : List Char} {w : Url}
    (hscheme : Host.Plain scheme) (hfile : scheme ≠ "file")
    (h : readAfterSlashes? scheme text = some w) : w.Tidy := by
  simp only [readAfterSlashes?] at h
  split at h
  · cases h
  · next v left hauthority =>
    cases h
    obtain ⟨rfl, hnameless, host, hhost, hplain⟩ := of_readAuthority? hauthority hfile
    refine ⟨hscheme, ?_, hnameless, Segments.unasked_rooted _ _⟩
    intro host' hhost'
    obtain rfl : host = host' := Option.some.inj (hhost.symm.trans hhost')
    exact hplain

theorem tidy_file {host : Host} (hhost : Host.Plain host.text) {path : FilePath}
    (hpath : Unasked path.names) (tail : List Char) : (file host path tail).Tidy := by
  refine ⟨?_, ?_, Or.inl ⟨rfl, rfl⟩, Segments.unasked_dropEmptyHead hpath⟩
  · simp [file, Host.Plain]
  · rintro _ ⟨⟩
    exact hhost

theorem plain_no_host : Host.Plain (Host.opaqueName "").text := by simp [Host.text, Host.Plain]

theorem plain_of_readFileHost? {text : List Char} {host : Host}
    (h : readFileHost? text = some host) : Host.Plain host.text := by
  rw [readFileHost?] at h
  split at h
  · cases h
    exact plain_no_host
  · obtain ⟨read, hread, rfl⟩ := Option.map_eq_some_iff.1 h
    split
    · exact plain_no_host
    · exact Host.plain_of_ofChars? hread

theorem mark_notMem_takeWhile (text : List Char) : '?' ∉ text.takeWhile (!endsPath ·) := by
  intro hmem
  exact absurd (List.mem_takeWhile_imp hmem) (by decide)

theorem mark_notMem_dropSlash {special : Bool} {text : List Char} (h : '?' ∉ text) :
    '?' ∉ Segments.dropSlash special text := by
  cases text with
  | nil => exact h
  | cons c rest =>
    rw [Segments.dropSlash]
    split
    · exact fun hmem => h (List.mem_cons_of_mem c hmem)
    · exact h

theorem tidy_readFileAfterSlashes? {text : List Char} {w : Url}
    (h : readFileAfterSlashes? text = some w) : w.Tidy := by
  simp only [readFileAfterSlashes?] at h
  split at h
  · cases h
    exact tidy_file plain_no_host (FilePath.unasked_below (mark_notMem_takeWhile text)) _
  · obtain ⟨host, hhost, rfl⟩ := Option.map_eq_some_iff.1 h
    apply tidy_file
    · split
      · exact plain_no_host
      · exact plain_of_readFileHost? hhost
    · exact FilePath.unasked_below (mark_notMem_dropSlash (mark_notMem_takeWhile _))

theorem tidy_readFile? {text : List Char} {w : Url} (h : readFile? none text = some w) :
    w.Tidy := by
  have hone : ∀ text, (readFile?.readOneFile none text).Tidy := by
    intro text
    simp only [readFile?.readOneFile]
    split
    · simp only [rootedFile, ite_self]
      exact tidy_file plain_no_host (FilePath.unasked_below (mark_notMem_takeWhile _)) _
    · exact tidy_file plain_no_host (FilePath.unasked_below (mark_notMem_takeWhile text)) _
  rw [readFile?] at h
  split at h
  · split at h
    · exact tidy_readFileAfterSlashes? h
    · cases h
      exact hone _
  · cases h
    exact hone _

theorem tidy_readOther? {scheme : String} {text : List Char} {w : Url}
    (hscheme : Host.Plain scheme) (hfile : scheme ≠ "file")
    (h : readOther? scheme text = some w) : w.Tidy := by
  simp only [readOther?] at h
  split at h
  · exact tidy_readAfterSlashes? hscheme hfile h
  · cases h
    exact ⟨hscheme, by simp, Or.inl ⟨rfl, rfl⟩, Segments.unasked_append unasked_nil _⟩
  · cases h
    exact ⟨hscheme, by simp, Or.inl ⟨rfl, rfl⟩,
      mark_notMem_escape (Or.inl (mark_notMem_takeWhile text))⟩

theorem tidy_readWithScheme? {scheme : String} {text : List Char} {w : Url}
    (hscheme : Host.Plain scheme) (hfile : scheme ≠ "file")
    (h : readWithScheme? none scheme text = some w) : w.Tidy := by
  simp only [readWithScheme?] at h
  split at h
  · exact tidy_readAfterSlashes? hscheme hfile h
  · exact tidy_readOther? hscheme hfile h

/-- Whatever text an address is read from, its parts do not run into each other. -/
theorem tidy_of_ofString? {text : String} {w : Url} (h : ofString? text = some w) : w.Tidy := by
  simp only [ofString?, read?] at h
  split at h
  · next scheme rest hread =>
    obtain ⟨name, hname, -, rfl⟩ := readScheme?_eq_some_iff.1 hread
    split at h
    · exact tidy_readFile? h
    · next hfile => exact tidy_readWithScheme? (plain_scheme hname).1 hfile h
  · cases h

/-! ### Text -/

theorem plain_portText (port : Option Nat) : Host.Plain (portText port) := by
  cases port with
  | none => simp [portText, Host.Plain]
  | some n =>
    have hcolon : Host.Plain ":" := by simp [Host.Plain]
    exact hcolon.append (Host.plain_toString n)

theorem authorityText_redacted {w : Url} (h : w.Nameless) {host : Host}
    (hhost : w.host = some host) :
    w.redacted.authorityText = "//" ++ host.text ++ portText w.port := by
  have hredacted : w.redacted.host = some host := hhost
  rw [authorityText, hredacted, userText_redacted h]
  simp [redacted]

theorem mark_notMem_authorityText {w : Url} (h : w.Tidy) :
    '?' ∉ w.redacted.authorityText.toList := by
  cases hhost : w.host with
  | none =>
    have hredacted : w.redacted.host = none := hhost
    simp [authorityText, hredacted]
  | some host =>
    have hplain := (h.host host hhost).append (plain_portText w.port)
    rw [authorityText_redacted h.nameless hhost]
    intro hmem
    exact (hplain '?' (by simpa using hmem)).2.1 rfl

theorem mark_notMem_pathText {w : Url} (h : w.Tidy) : '?' ∉ w.pathText.toList := by
  have hpath := h.path
  rw [pathText]
  split
  · next text htext => simpa [htext] using hpath
  · next names hnames =>
    rw [hnames] at hpath
    have hjoined : '?' ∉ (String.join (names.map ("/" ++ ·))).toList := by
      rw [String.toList_join]
      simpa [Unasked] using hpath
    simp only
    split
    · simpa using hjoined
    · exact hjoined

theorem mark_notMem_redacted {w : Url} (h : w.Tidy) : '?' ∉ w.redacted.text.toList := by
  have hscheme : '?' ∉ w.scheme.toList := fun hmem => (h.scheme '?' hmem).2.1 rfl
  have hkept : w.redacted.pathText = w.pathText := rfl
  have htext : w.redacted.text =
      w.scheme ++ ":" ++ w.redacted.authorityText ++ w.redacted.pathText ++ "" ++ "" := rfl
  rw [htext, hkept]
  simp [hscheme, mark_notMem_pathText h, mark_notMem_authorityText h]

end Url

/-- No address that is shown has a query. -/
theorem Address.mark_notMem_redact (text : String) : '?' ∉ (redact text).toList := by
  rw [redact]
  split
  · next w hread => exact Url.mark_notMem_redacted (Url.tidy_of_ofString? hread)
  · intro hmem
    rw [String.toList_ofList] at hmem
    simpa using List.mem_takeWhile_imp hmem

end ServiceCall
