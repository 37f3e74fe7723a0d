import ServiceCall.Message
import ServiceCall.Proofs.Address.Authority
import ServiceCall.Proofs.Address.Form

/-!
Parameters on their way. A message carries the parameters of its request once, as a form or
behind whatever its address asks for. What follows a number sign is not part of an address,
though, and parameters behind a path that has one are lost.
-/

namespace ServiceCall

namespace Uri

/-- The address with more in its query. -/
def asking (u : Uri) (more : String) : Uri :=
  { u with query := some (match u.query with
      | none => more
      | some query => query ++ "&" ++ more) }

/-! ### Reading what has been appended -/

/-- What stands behind a number sign is not read. -/
theorem readPathAndQuery?_append {text : List Char} (h : '#' ∈ text) (more : List Char) :
    readPathAndQuery? (text ++ more) = readPathAndQuery? text := by
  have hvisible : (text ++ more).takeWhile (· ≠ '#') = text.takeWhile (· ≠ '#') := by
    obtain ⟨front, tail, rfl, hfront⟩ := List.eq_append_cons_of_mem h
    rw [List.append_assoc, List.cons_append, takeWhile_ne_append_cons hfront,
      takeWhile_ne_append_cons hfront]
  simp only [readPathAndQuery?, hvisible]

theorem readPathAndQuery?_of_no_query {path : List Char} (hsign : '#' ∉ path)
    (hmark : '?' ∉ path) : readPathAndQuery? path =
      if path.all isPathChar then some (String.ofList path, none) else none := by
  have hvisible : path.takeWhile (· ≠ '#') = path :=
    List.takeWhile_eq_self_iff.2 (forall_ne_of_notMem hsign)
  have hmark := forall_ne_of_notMem hmark
  simp only [readPathAndQuery?, hvisible, List.takeWhile_eq_self_iff.2 hmark,
    List.dropWhile_eq_nil_iff.2 hmark]
  cases path.all isPathChar <;> rfl

theorem readPathAndQuery?_of_query {path query : List Char} (hmark : '?' ∉ path)
    (hsign : '#' ∉ path ++ '?' :: query) : readPathAndQuery? (path ++ '?' :: query) =
      if path.all isPathChar && query.all isQueryChar then
        some (String.ofList path, some (String.ofList query)) else none := by
  have hvisible : (path ++ '?' :: query).takeWhile (· ≠ '#') = path ++ '?' :: query :=
    List.takeWhile_eq_self_iff.2 (forall_ne_of_notMem hsign)
  simp only [readPathAndQuery?, hvisible, takeWhile_ne_append_cons hmark,
    dropWhile_ne_append_cons hmark]
  cases path.all isPathChar <;> cases query.all isQueryChar <;> rfl

/-- Without a number sign the text that is appended becomes the end of the query. -/
theorem readPathAndQuery?_withQuery {text : List Char} (h : '#' ∉ text) {more : String}
    (hmore : ∀ c ∈ more.toList, isQueryChar c = true) {path : String} {query : Option String}
    (hread : readPathAndQuery? (Address.withQuery text (some more)) = some (path, query)) :
    ∃ bare, readPathAndQuery? text = some (path, bare) ∧
      query = some (match bare with
        | none => more
        | some query => query ++ "&" ++ more) := by
  have hsign : '#' ∉ more.toList := fun hmem => absurd (hmore _ hmem) (by decide)
  by_cases hmark : '?' ∈ text
  · obtain ⟨front, asked, rfl, hfront⟩ := List.eq_append_cons_of_mem hmark
    have htext : Address.withQuery (front ++ '?' :: asked) (some more) =
        front ++ '?' :: (asked ++ '&' :: more.toList) := by
      simp [Address.withQuery]
    rw [htext, readPathAndQuery?_of_query hfront (by simpa [hsign] using h)] at hread
    split at hread
    · next hchars =>
      cases hread
      refine ⟨some (String.ofList asked), ?_, ?_⟩
      · rw [readPathAndQuery?_of_query hfront h, if_pos]
        simp_all
      · simp [← String.toList_inj]
    · cases hread
  · have htext : Address.withQuery text (some more) = text ++ '?' :: more.toList := by
      simp [Address.withQuery, hmark]
    rw [htext, readPathAndQuery?_of_query hmark (by simpa [hsign] using h)] at hread
    split at hread
    · next hchars =>
      cases hread
      refine ⟨none, ?_, by simp⟩
      rw [readPathAndQuery?_of_no_query h hmark, if_pos]
      simp_all
    · cases hread

end Uri

/-- In an address the parameters stand behind all that there is without them. -/
theorem Address.withQuery_lead {endpoint : Uri} (h : endpoint.Absolute) (rest : List Char)
    (query : Option String) :
    withQuery (endpoint.lead ++ rest) query = endpoint.lead ++ withQuery rest query := by
  cases query with
  | none => rfl
  | some query => simp [withQuery, h.lead_inside.1]

namespace HttpRequest

variable {σ : Type} {r : HttpRequest σ}

/-! ### Payloads -/

theorem payload_of_form? {form : String} (h : r.form? = some form) :
    r.payload.1 = .ok (Bytes.ofString form) := by
  simp only [payload, h]

theorem payload_of_no_form (h : r.form? = none) : r.payload.1 = r.body.readRemaining.1 := by
  simp only [payload, h]

/-! ### Addresses with parameters -/

theorem isQueryChar_of_encodedParameters? {more : String} (h : r.encodedParameters? = some more) :
    ∀ c ∈ more.toList, Uri.isQueryChar c = true := by
  simp only [encodedParameters?, Form.encode?] at h
  split at h
  · cases h
  · cases h
    simpa using Form.isQueryChar_encode r.parameters

theorem fullUri_of_no_parameters (h : r.encodedParameters? = none) : r.fullUri = r.bareUri := by
  simp [fullUri, bareUri, address, addressText, h]

/-- What a request asks for with its parameters, told by what it asks for without them. -/
theorem bareUri_of_fullUri (h : r.endpoint.Absolute) (hredirect : r.redirectTarget = none)
    {more : String} (hmore : r.encodedParameters? = some more) {u : Uri}
    (hfull : r.fullUri = .ok u) :
    ∃ bare, r.bareUri = .ok bare ∧ u = if '#' ∈ r.path.toList then bare else bare.asking more := by
  obtain ⟨tail, htail, hsign⟩ := Address.below_eq h r.path
  have hbareText : r.addressText false = r.endpoint.lead ++ '/' :: tail := by
    rw [addressText, htail]
    rfl
  have hfullText : r.addressText true =
      r.endpoint.lead ++ Address.withQuery ('/' :: tail) (some more) := by
    rw [addressText, htail, if_pos rfl, hmore, Address.withQuery_lead h]
  obtain ⟨appended, happended⟩ := Address.withQuery_append ('/' :: tail) (some more)
  rw [fullUri, address_eq_ok_iff hredirect, hfullText, happended, List.cons_append] at hfull
  obtain ⟨path, query, hparts, rfl⟩ := h.of_ofString? hfull
  rw [← List.cons_append, ← happended] at hparts
  by_cases hpath : '#' ∈ r.path.toList
  · have hbare : Uri.readPathAndQuery? ('/' :: tail) = some (path, query) := by
      have : '#' ∈ '/' :: tail := List.mem_cons_of_mem _ (hsign.2 hpath)
      rw [happended, Uri.readPathAndQuery?_append this] at hparts
      exact hparts
    refine ⟨_, ?_, (if_pos hpath).symm⟩
    rw [bareUri, address_eq_ok_iff hredirect, hbareText]
    exact h.ofString?_front hfull hbare
  · have : '#' ∉ '/' :: tail := by simpa using fun hmem => hpath (hsign.1 hmem)
    obtain ⟨bare, hbare, hquery⟩ := Uri.readPathAndQuery?_withQuery this
      (isQueryChar_of_encodedParameters? hmore) hparts
    refine ⟨⟨r.endpoint.scheme, r.endpoint.authority, path, bare⟩, ?_, ?_⟩
    · rw [bareUri, address_eq_ok_iff hredirect, hbareText]
      exact h.ofString?_front hfull hbare
    · rw [if_neg hpath, hquery, Uri.asking]

/-! ### Messages -/

/-- The message is a form of the parameters, for the address without them. -/
structure CarriesForm (r : HttpRequest σ) (m : Message) : Prop where
  address : r.bareUri = .ok m.address
  pairs : Form.decode m.payload = r.parameters.pairs.map Form.bytesOf

/-- The message has the payload of the request, and its address asks for the parameters behind
what it asks for without them, unless a number sign in the path hides them. -/
structure CarriesQuery (r : HttpRequest σ) (m : Message) : Prop where
  payload : r.body.readRemaining.1 = .ok m.payload
  address : ∃ bare, r.bareUri = .ok bare ∧ match r.encodedParameters? with
    | none => r.parameters.isEmpty = true ∧ m.address = bare
    | some more => Form.decode (Bytes.ofString more) = r.parameters.pairs.map Form.bytesOf ∧
        m.address = if '#' ∈ r.path.toList then bare else bare.asking more

theorem decode_encodedParameters? (hnamed : r.parameters.Named) {more : String}
    (h : r.encodedParameters? = some more) :
    Form.decode (Bytes.ofString more) = r.parameters.pairs.map Form.bytesOf := by
  simp only [encodedParameters?, Form.encode?] at h
  split at h
  · cases h
  · cases h
    rw [Bytes.ofString, String.toList_ofList, Form.decode_encode hnamed]

theorem isSome_encodedParameters? (h : r.parameters.isEmpty = false) :
    ∃ more, r.encodedParameters? = some more :=
  ⟨_, by rw [encodedParameters?, Form.encode?, if_neg (by simp [h])]⟩

theorem encodedParameters?_eq_none_iff :
    r.encodedParameters? = none ↔ r.parameters.isEmpty = true := by
  cases h : r.parameters.isEmpty <;> simp [encodedParameters?, Form.encode?, h]

theorem message_of_dialled {u : Uri} (hdialled : r.dialled = .ok u) :
    match r.payload.1 with
    | .ok payload => ∃ m, (Message.of r).1 = .ok m ∧ m.address = u ∧ m.payload = payload
    | .error e => (Message.of r).1 = .error (.ofIo e) := by
  cases hpayload : r.payload with
  | mk outcome left =>
    cases outcome with
    | ok payload => exact ⟨_, by simp only [Message.of, hdialled, hpayload]; rfl, rfl, rfl⟩
    | error e => simp only [Message.of, hdialled, hpayload]

theorem carriesForm (hnamed : r.parameters.Named) (hform : r.sendsForm = true) {u : Uri}
    (hdialled : r.dialled = .ok u) :
    ∃ m, (Message.of r).1 = .ok m ∧ m.address = u ∧ r.CarriesForm m := by
  have hparameters : r.parameters.isEmpty = false := by
    simp only [sendsForm, Bool.and_eq_true, Bool.not_eq_true'] at hform
    exact hform.2
  obtain ⟨form, hmore⟩ := isSome_encodedParameters? hparameters
  have hsome : r.form? = some form := by rw [form?, if_pos hform, hmore]
  have hmessage := message_of_dialled hdialled
  rw [payload_of_form? hsome] at hmessage
  obtain ⟨m, hm, haddress, hpayload⟩ := hmessage
  refine ⟨m, hm, haddress, ?_, ?_⟩
  · rw [haddress, ← hdialled, dialled, hsome]
    rfl
  · rw [hpayload, decode_encodedParameters? hnamed hmore]

theorem carriesQuery (h : r.endpoint.Absolute) (hredirect : r.redirectTarget = none)
    (hnamed : r.parameters.Named) (hform : r.sendsForm = false) {u : Uri}
    (hdialled : r.dialled = .ok u) :
    match r.body.readRemaining.1 with
    | .ok _ => ∃ m, (Message.of r).1 = .ok m ∧ m.address = u ∧ r.CarriesQuery m
    | .error e => (Message.of r).1 = .error (.ofIo e) := by
  have hnone : r.form? = none := by simp [form?, hform]
  have hfull : r.fullUri = .ok u := by simpa [dialled, hnone] using hdialled
  have hmessage := message_of_dialled hdialled
  rw [payload_of_no_form hnone] at hmessage
  cases hbody : r.body.readRemaining.1 with
  | error e => rwa [hbody] at hmessage
  | ok payload =>
    rw [hbody] at hmessage
    obtain ⟨m, hm, rfl, hpayload⟩ := hmessage
    refine ⟨m, hm, rfl, by rw [hbody, hpayload], ?_⟩
    cases hmore : r.encodedParameters? with
    | none =>
      refine ⟨m.address, ?_, encodedParameters?_eq_none_iff.1 hmore, rfl⟩
      rw [← fullUri_of_no_parameters hmore, hfull]
    | some more =>
      obtain ⟨bare, hbare, haddress⟩ := bareUri_of_fullUri h hredirect hmore hfull
      exact ⟨bare, hbare, decode_encodedParameters? hnamed hmore, haddress⟩

/-- The parameters of a request go into its message once. A request that is posted without a
payload carries them as its form, and any other one that can be read carries them in its address,
behind what the endpoint and the path ask for; there they are lost when the path has a number
sign. -/
theorem parameters_of_message {written : String} (hread : Uri.ofString? written = some r.endpoint)
    (hscheme : r.endpoint.scheme.isSome) (hredirect : r.redirectTarget = none)
    (hnamed : r.parameters.Named) {u : Uri} (hdialled : r.dialled = .ok u) :
    if r.method = Method.post ∧ r.body.isEmpty = true ∧ r.parameters.isEmpty = false then
      ∃ m, (Message.of r).1 = .ok m ∧ m.address = u ∧ r.CarriesForm m
    else match r.body.readRemaining.1 with
      | .ok _ => ∃ m, (Message.of r).1 = .ok m ∧ m.address = u ∧ r.CarriesQuery m
      | .error e => (Message.of r).1 = .error (.ofIo e) := by
  have hsends : r.sendsForm = true ↔
      r.method = Method.post ∧ r.body.isEmpty = true ∧ r.parameters.isEmpty = false := by
    simp [sendsForm, hredirect, and_assoc]
  split
  · next hform => exact carriesForm hnamed (hsends.2 hform) hdialled
  · next hform =>
    have habsolute := Uri.absolute_of_ofString? hread hscheme
    have hplain : r.sendsForm = false := by simpa using fun h => hform (hsends.1 h)
    exact carriesQuery habsolute hredirect hnamed hplain hdialled

/-- A request with parameters, a payload and a number sign in its path. -/
def strayed : HttpRequest Unit :=
  { subject := default, method := Method.post,
    endpoint := ⟨some .https, "kec.api.example.com", "/", none⟩, path := "a#b",
    parameters := Parameters.add {} "x" "1", body := .ofString "payload" }

/-- The same request with a question mark in its path. -/
def unstrayed : HttpRequest Unit := { strayed with path := "a?b" }

theorem parameters_of_unstrayed_message :
    ∃ m, (Message.of unstrayed).1 = .ok m ∧
      m.address = ⟨some .https, "kec.api.example.com", "/a", some "b&x=1"⟩ ∧
      unstrayed.CarriesQuery m := by
  have hread : Uri.ofString? "https://kec.api.example.com" = some unstrayed.endpoint := by
    decide +kernel
  have hdialled : unstrayed.dialled =
      .ok ⟨some .https, "kec.api.example.com", "/a", some "b&x=1"⟩ := by rfl
  exact parameters_of_message hread rfl rfl (by decide +kernel) hdialled

/-- Parameters behind a number sign are lost: the message has its own payload, and nothing is
asked for. -/
theorem parameters_lost_behind_sign :
    Uri.ofString? "https://kec.api.example.com" = some strayed.endpoint ∧
      strayed.redirectTarget = none ∧ strayed.parameters.Named ∧
      strayed.encodedParameters? = some "x=1" ∧
      ∃ m, (Message.of strayed).1 = .ok m ∧
        m.address = ⟨some .https, "kec.api.example.com", "/a", none⟩ ∧
        m.payload = Bytes.ofString "payload" := by
  refine ⟨by decide +kernel, rfl, by decide +kernel, by decide +kernel, ?_⟩
  exact ⟨_, rfl, rfl, rfl⟩

end HttpRequest

end ServiceCall
