import Mathlib.Data.String.Basic
import ServiceCall.Proofs.Address.Delivery
import ServiceCall.Proofs.Table
import ServiceCall.Proofs.Text.Utf8

/-!
Forms and their readers. From the text of a form its reader gets the pairs of the parameters as
texts again, in the order of their names, and the text stays what it is where it is put behind
other text in the query of an address.
-/

namespace ServiceCall

/-- What stands on either side of a separator is cut on its own. -/
theorem Parts.split_append_separator {α : Type} {separates : α → Bool} {s : α}
    (hs : separates s = true) (front rest : List α) :
    split separates (front ++ s :: rest) = split separates front ++ split separates rest := by
  induction front with
  | nil => exact split_append (fun a ha => absurd ha List.not_mem_nil) hs rest
  | cons a front ih =>
    cases hfront : split separates front with
    | nil => exact absurd hfront (split_ne_nil separates front)
    | cons part parts =>
      rw [hfront] at ih
      simp only [List.cons_append, split, ih, hfront]
      split <;> rfl

namespace Parameters

/-! ### Pairs -/

theorem sorted_add {p : Parameters} (h : p.Sorted) (name value : String) :
    (p.add name value).Sorted := h.insert _ _

theorem sorted_addName {p : Parameters} (h : p.Sorted) (name : String) :
    (p.addName name).Sorted := h.insert _ _

/-- What pairs say of the values of a name. -/
def valuesIn (name : String) (pairs : List (String × String)) : List String :=
  (pairs.filter (·.1 = name)).map Prod.snd

theorem valuesIn_append (name : String) (pairs pairs' : List (String × String)) :
    valuesIn name (pairs ++ pairs') = valuesIn name pairs ++ valuesIn name pairs' := by
  simp [valuesIn]

/-- The pairs are in the order of their names, and each name has its values in their order; a name
without values has one empty value. -/
structure Listed (p : Parameters) (pairs : List (String × String)) : Prop where
  order : pairs.Pairwise fun pair pair' => pair.1 ≤ pair'.1
  values : ∀ name, valuesIn name pairs =
    match p.find? name with
    | none => []
    | some values => if values = [] then [""] else values

end Parameters

namespace Form

/-! ### The pairs of one name -/

theorem fst_of_mem_pairsOf {e : String × List String} {pair : String × String}
    (h : pair ∈ pairsOf e) : pair.1 = e.1 := by
  unfold pairsOf at h
  split at h
  · rw [List.mem_singleton.1 h]
  · obtain ⟨value, -, rfl⟩ := List.mem_map.1 h
    rfl

theorem map_snd_pairsOf (e : String × List String) :
    (pairsOf e).map Prod.snd = if e.2 = [] then [""] else e.2 := by
  unfold pairsOf
  cases e.2 with
  | nil => rfl
  | cons value values => simp [Function.comp_def]

theorem valuesIn_pairsOf (name : String) (e : String × List String) :
    Parameters.valuesIn name (pairsOf e) =
      if e.1 = name then (if e.2 = [] then [""] else e.2) else [] := by
  unfold Parameters.valuesIn
  split
  · next heq =>
    rw [List.filter_eq_self.2 fun pair hpair => by simpa using (fst_of_mem_pairsOf hpair).trans heq,
      map_snd_pairsOf]
  · next hne =>
    have hnone : (pairsOf e).filter (·.1 = name) = [] := by
      refine List.filter_eq_nil_iff.2 fun pair hpair => ?_
      simpa [fst_of_mem_pairsOf hpair] using hne
    rw [hnone, List.map_nil]

/-! ### Reading texts -/

/-- The pairs of a form, if all its names and values are texts. -/
def read? (bytes : Bytes) : Option (List (String × String)) :=
  (decode bytes).mapM fun (name, value) => do
    return (← Bytes.toString? name, ← Bytes.toString? value)

theorem read?_encode {p : Parameters} (h : p.Named) :
    read? (Utf8.encode (encode p)) = some p.pairs := by
  rw [read?, decode_encode h]
  induction p.pairs with
  | nil => rfl
  | cons pair pairs ih =>
    simp only [List.map_cons, List.mapM_cons, ih, bytesOf, Bytes.toString?_ofString]
    rfl

/-- A form behind another one adds its own pairs and nothing else. -/
theorem decode_append (front rest : Bytes) :
    decode (front ++ 0x26 :: rest) = decode front ++ decode rest := by
  have hsplit : Parts.split (· = 0x26) (front ++ 0x26 :: rest) =
      Parts.split (· = 0x26) front ++ Parts.split (· = 0x26) rest :=
    Parts.split_append_separator (by decide) front rest
  rw [decode, hsplit, List.filter_append, List.map_append]
  rfl

end Form

namespace Parameters

/-! ### Names and their values -/

theorem valuesIn_of_forall_ne {name : String} {entries : List (String × List String)}
    (h : ∀ e ∈ entries, e.1 ≠ name) : valuesIn name (entries.flatMap Form.pairsOf) = [] := by
  induction entries with
  | nil => rfl
  | cons e entries ih =>
    rw [List.flatMap_cons, valuesIn_append, Form.valuesIn_pairsOf, if_neg (h e (by simp)),
      ih fun e he => h e (by simp [he])]
    rfl

theorem pairwise_pairs {p : Parameters} (h : p.Sorted) :
    p.pairs.Pairwise fun pair pair' => pair.1 ≤ pair'.1 := by
  have hsorted : p.entries.Pairwise fun e e' => e.1 < e'.1 := h
  have hpairs : p.pairs = p.entries.flatMap Form.pairsOf := rfl
  rw [hpairs]
  refine List.pairwise_flatMap.2
    ⟨fun e _ => ?_, hsorted.imp fun hlt pair hpair pair' hpair' => ?_⟩
  · refine List.pairwise_of_forall_mem_list fun pair hpair pair' hpair' => ?_
    rw [Form.fst_of_mem_pairsOf hpair, Form.fst_of_mem_pairsOf hpair']
  · rw [Form.fst_of_mem_pairsOf hpair, Form.fst_of_mem_pairsOf hpair']
    exact le_of_lt hlt

/-- The pairs say of each name what the table says. -/
theorem valuesIn_pairs {p : Parameters} (h : p.Sorted) (name : String) :
    valuesIn name p.pairs =
      match p.find? name with
      | none => []
      | some values => if values = [] then [""] else values := by
  obtain ⟨entries⟩ := p
  change valuesIn name (entries.flatMap Form.pairsOf) = _
  replace h : entries.Pairwise fun e e' => e.1 < e'.1 := h
  induction entries with
  | nil => rfl
  | cons e entries ih =>
    obtain ⟨hfirst, hrest⟩ := List.pairwise_cons.1 h
    rw [List.flatMap_cons, valuesIn_append, Form.valuesIn_pairsOf]
    by_cases he : e.1 = name
    · have hnone : valuesIn name (entries.flatMap Form.pairsOf) = [] :=
        valuesIn_of_forall_ne fun e' he' => (he ▸ hfirst e' he').ne'
      rw [if_pos he, hnone, List.append_nil]
      simp [Table.find?, he]
    · rw [if_neg he, List.nil_append, ih hrest]
      simp [Table.find?, he]

theorem listed_pairs {p : Parameters} (h : p.Sorted) : p.Listed p.pairs :=
  ⟨pairwise_pairs h, valuesIn_pairs h⟩

end Parameters

/-- A path and a query that may stand in an address are read as they are. -/
theorem Uri.readPathAndQuery?_of_chars {path query : List Char}
    (hpath : ∀ c ∈ path, isPathChar c = true) (hquery : ∀ c ∈ query, isQueryChar c = true) :
    readPathAndQuery? (path ++ '?' :: query) =
      some (String.ofList path, some (String.ofList query)) := by
  have hmark : '?' ∉ path := fun h => absurd (hpath _ h) (by decide)
  have hsign : '#' ∉ path ++ '?' :: query := by
    simp only [List.mem_append, List.mem_cons, not_or]
    exact ⟨fun h => absurd (hpath _ h) (by decide), by decide,
      fun h => absurd (hquery _ h) (by decide)⟩
  rw [readPathAndQuery?_of_query hmark hsign, List.all_eq_true.2 hpath, List.all_eq_true.2 hquery]
  rfl

/-- The text of named parameters is read as their pairs, in the order of the names and with the
values of each name in their order. Behind whatever a query asks for already, it belongs to that
query up to its end, and adds those pairs and no others. -/
theorem parameters_read_back {p : Parameters} (hsorted : p.Sorted) (hsome : p.isEmpty = false)
    (hnamed : p.Named) :
    ∃ text, Form.encode? p = some text ∧
      Form.read? (Bytes.ofString text) = some p.pairs ∧ p.Listed p.pairs ∧
      (∀ c ∈ text.toList, Uri.isQueryChar c = true) ∧
      (∀ path asked, (∀ c ∈ path, Uri.isPathChar c = true) →
        (∀ c ∈ asked, Uri.isQueryChar c = true) →
        Uri.readPathAndQuery? (path ++ '?' :: (asked ++ text.toList)) =
          some (String.ofList path, some (String.ofList (asked ++ text.toList)))) ∧
      ∀ asked, Form.decode (Bytes.ofString (asked ++ "&" ++ text)) =
        Form.decode (Bytes.ofString asked) ++ p.pairs.map Form.bytesOf := by
  have hchars := Form.isQueryChar_encode p
  refine ⟨String.ofList (Form.encode p), by simp [Form.encode?, hsome], ?_,
    Parameters.listed_pairs hsorted, ?_, fun path asked hpath hasked => ?_, fun asked => ?_⟩
  · rw [Bytes.ofString, String.toList_ofList, Form.read?_encode hnamed]
  · rwa [String.toList_ofList]
  · rw [String.toList_ofList]
    refine Uri.readPathAndQuery?_of_chars hpath fun c hc => ?_
    obtain hc | hc := List.mem_append.1 hc
    · exact hasked c hc
    · exact hchars c hc
  · have hbyte : Utf8.encode ['&'] = [0x26] := by decide
    rw [Bytes.ofString, String.toList_append, String.toList_append, String.toList_ofList,
      List.append_assoc, Utf8.encode_append, Utf8.encode_append, hbyte, List.singleton_append,
      Form.decode_append, String.toList_ofList, Form.decode_encode hnamed]
    rfl

/-- Parameters with an empty name, a name without values, and characters that separate. -/
def intricate : Parameters :=
  Parameters.add (Parameters.add (Parameters.addName (Parameters.add {} "" "") "a b") "é&=" "1+%")
    "é&=" ""

theorem intricate_parameters_read_back :
    intricate.Sorted ∧ intricate.isEmpty = false ∧ intricate.Named ∧
      ∃ text, Form.encode? intricate = some text ∧ Form.read? (Bytes.ofString text) =
        some [("", ""), ("a b", ""), ("é&=", "1+%"), ("é&=", "")] := by
  have hsorted : intricate.Sorted :=
    Parameters.sorted_add (Parameters.sorted_add (Parameters.sorted_addName
      (Parameters.sorted_add Table.sorted_empty _ _) _) _ _) _ _
  have hsome : intricate.isEmpty = false := by decide +kernel
  have hnamed : intricate.Named := by decide +kernel
  obtain ⟨text, htext, hread, -⟩ := parameters_read_back hsorted hsome hnamed
  have hpairs : intricate.pairs = [("", ""), ("a b", ""), ("é&=", "1+%"), ("é&=", "")] := by
    decide +kernel
  exact ⟨hsorted, hsome, hnamed, text, htext, hpairs ▸ hread⟩

end ServiceCall
