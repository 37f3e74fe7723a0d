import ServiceCall.Proofs.Call.Footprint

/-!
Requests but for the capacity they tell of. The header field for retries has three parts, and the
third one is the capacity that is left. Two requests are alike if nothing else tells them apart.
-/

namespace ServiceCall

variable {σ β : Type}

/-! ### Parts of a header field -/

namespace Bytes

def slash : UInt8 := 0x2F

/-- All up to the `n`-th slash, which is kept. -/
def upToSlash : Nat → Bytes → Bytes
  | 0, _ => []
  | _ + 1, [] => []
  | n + 1, b :: rest => b :: upToSlash (if b = slash then n else n + 1) rest

/-- What follows on enough slashes makes no difference. -/
theorem upToSlash_append {n : Nat} {bytes : Bytes} (h : n ≤ bytes.count slash)
    (rest rest' : Bytes) : upToSlash n (bytes ++ rest) = upToSlash n (bytes ++ rest') := by
  induction bytes generalizing n with
  | nil =>
    obtain rfl := Nat.le_zero.mp h
    simp only [upToSlash]
  | cons b bytes ih =>
    cases n with
    | zero => simp only [upToSlash]
    | succ n =>
      rw [List.count_cons] at h
      simp only [List.cons_append, upToSlash]
      by_cases hb : b = slash
      · rw [if_pos (beq_iff_eq.mpr hb)] at h
        rw [if_pos hb, ih (Nat.le_of_succ_le_succ h)]
      · rw [if_neg (by simpa using hb), Nat.add_zero] at h
        rw [if_neg hb, ih h]

theorem ofString_append (a b : String) : ofString (a ++ b) = ofString a ++ ofString b := by
  rw [ofString, String.toList_append, Utf8.encode, List.flatMap_append]
  rfl

end Bytes

/-- The value without its third part. -/
def HeaderValue.masked (v : HeaderValue) : HeaderValue := ⟨Bytes.upToSlash 2 v.bytes⟩

/-- Values under the name without what the header field for retries tells of the capacity. -/
def HeaderValue.maskedUnder (name : String) (values : List HeaderValue) : List HeaderValue :=
  if name = CallM.retryHeader then values.map masked else values

/-! ### Requests -/

def Headers.masked (h : Headers) : Headers :=
  ⟨⟨h.fields.entries.map fun e => (e.1, HeaderValue.maskedUnder e.1 e.2)⟩⟩

/-- Masked fields are set to masked values. -/
theorem Headers.masked_set (h : Headers) (name : String) (v : HeaderValue) :
    (h.set name v).masked = ⟨h.masked.fields.insert name (HeaderValue.maskedUnder name [v])⟩ := by
  obtain ⟨⟨entries⟩⟩ := h
  simp only [masked, set, Table.insert, Headers.mk.injEq, Table.mk.injEq]
  induction entries with
  | nil => rfl
  | cons e rest ih =>
    simp only [Table.put, List.map_cons]
    by_cases heq : name = e.1
    · rw [if_pos heq, if_pos heq]
      rfl
    · rw [if_neg heq, if_neg heq]
      split
      · rfl
      · rw [List.map_cons, ih]

def HttpRequest.masked (r : HttpRequest σ) : HttpRequest σ := { r with headers := r.headers.masked }

/-- The event with masked requests. -/
def Event.masked : Event σ → Event σ
  | .dispatched r limit inFlight => .dispatched r.masked limit inFlight
  | .signing signer offset r => .signing signer offset r.masked
  | e => e

/-! ### Worlds and requests that are alike -/

/-- From worlds that are alike both answer the same and leave worlds that are alike. -/
def Agree (Same : σ → σ → Prop) (act act' : StateM σ β) : Prop :=
  ∀ world world', Same world world' →
    (act' world').1 = (act world).1 ∧ Same (act world).2 (act' world').2

/-- It does not matter in which of two worlds that are alike it is asked. -/
def Steady (Same : σ → σ → Prop) (act : StateM σ β) : Prop := Agree Same act act

/-- The requests differ in nothing but the third part of the header field for retries, and whom
they name is steady. -/
structure HttpRequest.Alike (Same : σ → σ → Prop) (r r' : HttpRequest σ) : Prop where
  masked : r'.masked = r.masked
  listener : ∀ tell, r.subject.listener = some tell → ∀ event, Steady Same (tell event)
  credentials : ∀ source, r.subject.credentials = some source → Steady Same source

namespace HttpRequest.Alike

variable {Same : σ → σ → Prop} {r r' : HttpRequest σ}

theorem subject (h : Alike Same r r') : r'.subject = r.subject :=
  (congrArg HttpRequest.subject h.masked :)

theorem method (h : Alike Same r r') : r'.method = r.method :=
  (congrArg HttpRequest.method h.masked :)

theorem endpoint (h : Alike Same r r') : r'.endpoint = r.endpoint :=
  (congrArg HttpRequest.endpoint h.masked :)

theorem parameters (h : Alike Same r r') : r'.parameters = r.parameters :=
  (congrArg HttpRequest.parameters h.masked :)

theorem headers (h : Alike Same r r') : r'.headers.masked = r.headers.masked :=
  (congrArg HttpRequest.headers h.masked :)

theorem body (h : Alike Same r r') : r'.body = r.body := (congrArg HttpRequest.body h.masked :)

/-- Addresses do not depend on header fields. -/
theorem fullUri (h : Alike Same r r') : r'.fullUri = r.fullUri :=
  (congrArg HttpRequest.fullUri h.masked :)

theorem loggedUri (h : Alike Same r r') : r'.loggedUri = r.loggedUri :=
  (congrArg HttpRequest.loggedUri h.masked :)

/-- A change that does not look at header fields keeps requests alike. -/
theorem revise (h : Alike Same r r') {f : HttpRequest σ → HttpRequest σ}
    (hmasked : ∀ r, (f r).masked = f r.masked) (hsubject : ∀ r, (f r).subject = r.subject) :
    Alike Same (f r) (f r') := by
  constructor
  · rw [hmasked, hmasked, h.masked]
  · rw [hsubject]
    exact h.listener
  · rw [hsubject]
    exact h.credentials

theorem withBody (h : Alike Same r r') (body : Body) :
    Alike Same { r with body } { r' with body } :=
  h.revise (f := fun r => { r with body }) (fun _ => rfl) fun _ => rfl

theorem withTimeOffset (h : Alike Same r r') (timeOffset : Int) :
    Alike Same { r with timeOffset } { r' with timeOffset } :=
  h.revise (f := fun r => { r with timeOffset }) (fun _ => rfl) fun _ => rfl

theorem foldl {δ : Type} {f : HttpRequest σ → δ → HttpRequest σ}
    (hf : ∀ r r' d, Alike Same r r' → Alike Same (f r d) (f r' d)) (l : List δ)
    (h : Alike Same r r') : Alike Same (l.foldl f r) (l.foldl f r') := by
  induction l generalizing r r' with
  | nil => exact h
  | cons d l ih => exact ih (hf _ _ d h)

theorem withHeaders (h : Alike Same r r') {fields fields' : Headers}
    (hfields : fields'.masked = fields.masked) :
    Alike Same { r with headers := fields } { r' with headers := fields' } := by
  refine ⟨?_, h.listener, h.credentials⟩
  have hrest : { r' with headers := fields'.masked } = { r with headers := fields.masked } := by
    rw [hfields]
    exact congrArg (fun r : HttpRequest σ => { r with headers := fields.masked }) h.masked
  exact hrest

/-- A header field is set in both requests or in none. -/
theorem setHeader (h : Alike Same r r') (name value : String) :
    (∃ e, r.setHeader name value = .error e ∧ r'.setHeader name value = .error e) ∨
      ∃ stamped stamped', r.setHeader name value = .ok stamped ∧
        r'.setHeader name value = .ok stamped' ∧ Alike Same stamped stamped' := by
  unfold HttpRequest.setHeader
  cases HeaderName.ofString? name with
  | none => exact .inl ⟨_, rfl, rfl⟩
  | some key =>
    cases HeaderValue.ofString? value with
    | none => exact .inl ⟨_, rfl, rfl⟩
    | some v =>
      refine .inr ⟨_, _, rfl, rfl, h.withHeaders ?_⟩
      rw [Headers.masked_set, Headers.masked_set, h.headers]

end HttpRequest.Alike

/-! ### What is told of the capacity -/

namespace CallM

/-- The characters of which the header field for retries is made. -/
def IsPlain (text : String) : Prop := ∀ c ∈ text.toList, c.isDigit = true ∨ c = '/'

theorem IsPlain.append {a b : String} (ha : IsPlain a) (hb : IsPlain b) : IsPlain (a ++ b) := by
  intro c hc
  rw [String.toList_append] at hc
  rcases List.mem_append.mp hc with hc | hc
  · exact ha c hc
  · exact hb c hc

theorem isPlain_toString (n : Nat) : IsPlain (toString n) := by
  intro c hc
  rw [Nat.toString_eq_ofList_toDigits, String.toList_ofList] at hc
  exact .inl (Nat.isDigit_of_mem_toDigits (by decide) (by decide) hc)

theorem isPlain_slash : IsPlain "/" := by
  intro c hc
  exact .inr (by simpa using hc)

/-- Plain characters are single bytes, and they may stand in a header field. -/
theorem accepts_plain {c : Char} (h : c.isDigit = true ∨ c = '/') :
    (String.utf8EncodeChar c).all HeaderValue.accepts = true := by
  have hbounds : 0x20 ≤ c.val.toNat ∧ c.val.toNat < 0x7F := by
    rcases h with h | rfl
    · simp only [Char.isDigit, Bool.and_eq_true, decide_eq_true_eq, ge_iff_le,
        UInt32.le_iff_toNat_le] at h
      exact ⟨Nat.le_trans (by decide) h.1, Nat.lt_of_le_of_lt h.2 (by decide)⟩
    · decide
  have hsize : c.utf8Size = 1 := by
    rw [Char.utf8Size_eq_one_iff, UInt32.le_iff_toNat_le]
    exact Nat.le_of_lt hbounds.2
  have hbyte : c.val.toUInt8.toNat = c.val.toNat := by
    rw [UInt32.toNat_toUInt8]
    omega
  rw [String.utf8EncodeChar_eq_singleton hsize, List.all_cons, List.all_nil, Bool.and_true]
  simp only [HeaderValue.accepts, Bool.or_eq_true, Bool.and_eq_true, decide_eq_true_eq,
    UInt8.le_iff_toNat_le, ne_eq, ← UInt8.toNat_inj, hbyte]
  left
  exact ⟨hbounds.1, Nat.ne_of_lt hbounds.2⟩

theorem IsPlain.exists_value {text : String} (h : IsPlain text) :
    HeaderValue.ofString? text = some ⟨Bytes.ofString text⟩ := by
  refine if_pos (List.all_eq_true.mpr fun b hb => ?_)
  obtain ⟨c, hc, hb⟩ := List.mem_flatMap.mp hb
  exact List.all_eq_true.mp (accepts_plain (h c hc)) b hb

/-- Whatever the pool, the value tells the same but for its third part. -/
theorem retryHeaderValue_masked (number : Nat) (lastBackoff : Duration) (pool pool' : RetryPool) :
    ∃ v v', HeaderValue.ofString? (retryHeaderValue number lastBackoff pool) = some v ∧
      HeaderValue.ofString? (retryHeaderValue number lastBackoff pool') = some v' ∧
      v'.masked = v.masked := by
  let start := toString (number - 1) ++ "/" ++ toString lastBackoff.millis ++ "/"
  have hplain : IsPlain start :=
    (((isPlain_toString _).append isPlain_slash).append (isPlain_toString _)).append isPlain_slash
  have hstart : 2 ≤ (Bytes.ofString start).count Bytes.slash := by
    have hslash : (Bytes.ofString "/").count Bytes.slash = 1 := by decide
    simp only [start, Bytes.ofString_append, List.count_append, hslash]
    omega
  have hrest : ∀ pool, ∃ rest, IsPlain rest ∧
      retryHeaderValue number lastBackoff pool = start ++ rest := by
    intro pool
    cases pool with
    | unlimited => exact ⟨"", by simp [IsPlain], rfl⟩
    | limited maximum available within => exact ⟨toString available, isPlain_toString _, rfl⟩
  obtain ⟨rest, hplain₁, heq⟩ := hrest pool
  obtain ⟨rest', hplain₂, heq'⟩ := hrest pool'
  rw [heq, heq']
  refine ⟨_, _, (hplain.append hplain₁).exists_value, (hplain.append hplain₂).exists_value, ?_⟩
  simp only [HeaderValue.masked, Bytes.ofString_append, HeaderValue.mk.injEq]
  exact Bytes.upToSlash_append hstart _ _

/-- The header field for retries is stamped alike, whatever the pools. -/
theorem setRetryHeader_alike {Same : σ → σ → Prop} {r r' : HttpRequest σ} (h : r.Alike Same r')
    (number : Nat) (lastBackoff : Duration) (pool pool' : RetryPool) :
    ∃ stamped stamped',
      r.setHeader retryHeader (retryHeaderValue number lastBackoff pool) = .ok stamped ∧
      r'.setHeader retryHeader (retryHeaderValue number lastBackoff pool') = .ok stamped' ∧
      stamped.Alike Same stamped' := by
  obtain ⟨v, v', hv, hv', hmasked⟩ := retryHeaderValue_masked number lastBackoff pool pool'
  have hname : HeaderName.ofString? retryHeader = some retryHeader := by decide
  simp only [HttpRequest.setHeader, hname, hv, hv', Except.ok.injEq]
  refine ⟨_, _, rfl, rfl, h.withHeaders ?_⟩
  simp only [Headers.masked_set, h.headers, HeaderValue.maskedUnder, if_true, List.map_cons,
    List.map_nil, hmasked]

end CallM

end ServiceCall
