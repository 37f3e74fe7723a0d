import ServiceCall.Proofs.Attempts.Stream
import ServiceCall.Proofs.Call.Answer

/-!
Signers of attempts. The first attempt is bound to the signer of the endpoint, one that follows a
redirect to another address to the signer of that address, and one that repeats the
authentication to what it was given; every other attempt keeps the signer of the one before.
Nobody is asked for a signer but for this.
-/

namespace ServiceCall

variable {σ α : Type}

namespace BoundSigner

/-- The binding is one for this address already. -/
def leadsTo (b : BoundSigner σ) (target : Uri) : Bool := b.address?.any (·.same target)

theorem plan_redirect (b : BoundSigner σ) (endpoint target : Uri) :
    b.plan endpoint (.redirect target) =
      if b.leadsTo target then .settled b else .ask target := by
  cases b with
  | unbound => rfl
  | bound address signer =>
    cases address with
    | none => rfl
    | some address => rfl

theorem plan_of_unbound (endpoint : Uri) :
    (unbound : BoundSigner σ).plan endpoint .start = .ask endpoint := rfl

theorem plan_retry {b : BoundSigner σ} (hb : b ≠ .unbound) (endpoint : Uri) (failure : Error) :
    b.plan endpoint (.retry failure) = .settled b := by
  cases b with
  | unbound => exact absurd rfl hb
  | bound address signer => rfl

end BoundSigner

/-! ### What the journal says of signers -/

/-- How an attempt came to be signed, or not. -/
structure Signing (σ : Type) where
  directive : Directive σ
  /-- The binding of the attempt before. -/
  found : BoundSigner σ
  /-- The addresses for which somebody was asked. -/
  asked : List Uri
  binding : BoundSigner σ
  /-- Whether there were credentials. -/
  credentials : Bool
  signers : List (Signer σ) := []

/-- The attempts that came as far as their signature, the last one first, and what is known of
the attempt under way. -/
structure SigningBook (σ : Type) where
  signings : List (Signing σ) := []
  directive : Directive σ := .start
  credentials : Bool := false
  asked : List Uri := []

namespace SigningBook

def bound (book : SigningBook σ) : BoundSigner σ :=
  (book.signings.head?.map Signing.binding).getD .unbound

/-- The attempt under way with the binding that it is given. -/
def draft (book : SigningBook σ) (binding : BoundSigner σ) : Signing σ where
  directive := book.directive
  found := book.bound
  asked := book.asked
  binding := binding
  credentials := book.credentials

def enter (book : SigningBook σ) : Event σ → SigningBook σ
  | .attemptStarted _ directive => { book with directive, credentials := false, asked := [] }
  | .credentialsAsked => { book with credentials := true }
  | .signerAsked address => { book with asked := book.asked ++ [address] }
  | .signerBound binding => { book with signings := book.draft binding :: book.signings }
  | .signing signer _ _ =>
    { book with
      signings := book.signings.modifyHead fun a => { a with signers := a.signers ++ [signer] } }
  | _ => book

end SigningBook

/-- The events that the book is about. -/
def signingKinds : List EventKind :=
  [.attemptStarted, .credentialsAsked, .signerAsked, .signerBound, .signing]

namespace Journal

variable {j new : Journal σ}

def book (j : Journal σ) : SigningBook σ := j.foldl SigningBook.enter {}

/-- The attempts that came as far as their signature, the last one first. -/
def signings (j : Journal σ) : List (Signing σ) := j.book.signings

/-- The addresses for which somebody was asked who signs. -/
def lookups (j : Journal σ) : List Uri :=
  j.filterMap fun
    | .signerAsked address => some address
    | _ => none

theorem book_concat (j : Journal σ) (e : Event σ) : (j ++ [e]).book = j.book.enter e :=
  List.foldl_concat ..

theorem book_append (hn : ∀ e ∈ new, e.kind ∉ signingKinds) : (j ++ new).book = j.book := by
  induction new generalizing j with
  | nil => rw [List.append_nil]
  | cons e new ih =>
    have he : e.kind ∉ signingKinds := hn e (.head _)
    have hnew : (j ++ [e] ++ new).book = (j ++ [e]).book := ih fun e he => hn e (.tail _ he)
    rw [List.append_cons, hnew, book_concat]
    cases e <;> first | rfl | exact absurd (by simp [Event.kind, signingKinds]) he

theorem lookups_append (j new : Journal σ) : (j ++ new).lookups = j.lookups ++ new.lookups :=
  List.filterMap_append

theorem lookups_eq_nil (hn : ∀ e ∈ new, e.kind ≠ .signerAsked) : new.lookups = [] := by
  refine List.filterMap_eq_nil_iff.mpr fun e he => ?_
  cases e <;> first | rfl | exact absurd rfl (hn _ he)

theorem book_asked (j : Journal σ) (asked : List Uri) :
    (j ++ asked.map Event.signerAsked).book = { j.book with asked := j.book.asked ++ asked } := by
  induction asked generalizing j with
  | nil => simp
  | cons address asked ih =>
    rw [List.map_cons, List.append_cons, ih, book_concat, SigningBook.enter]
    simp

theorem lookups_asked (asked : List Uri) :
    lookups (asked.map (Event.signerAsked (σ := σ))) = asked := by
  simp [lookups, List.filterMap_map]

end Journal

/-! ### Histories -/

/-- What an attempt is bound to, by its directive and the binding before, and who is asked. -/
inductive Rebinds (source : SignerSource σ) (first : Uri) (found : BoundSigner σ) :
    Directive σ → List Uri → BoundSigner σ → Prop where
  | start (world : σ) :
    Rebinds source first found .start [first] (.bound (some first) (source first world).1)
  | retry (failure : Error) : Rebinds source first found (.retry failure) [] found
  | authRetry (parameters : AuthRetry σ) :
    Rebinds source first found (.authRetry parameters) []
      (.bound parameters.endpoint parameters.signer)
  | stay {target : Uri} (bound : found.leadsTo target = true) :
    Rebinds source first found (.redirect target) [] found
  | move {target : Uri} (other : found.leadsTo target = false) (world : σ) :
    Rebinds source first found (.redirect target) [target]
      (.bound (some target) (source target world).1)

/-- Where something was bound before, or is bound for the first time, something is bound. -/
theorem Rebinds.ne_unbound {source : SignerSource σ} {first : Uri} {found binding : BoundSigner σ}
    {directive : Directive σ} {asked : List Uri}
    (h : Rebinds source first found directive asked binding)
    (hfound : directive.isStart = false → found ≠ .unbound) : binding ≠ .unbound := by
  cases h with
  | start world => simp
  | retry failure => exact hfound rfl
  | authRetry parameters => simp
  | stay bound => exact hfound rfl
  | move other world => simp

namespace Signing

/-- The attempt follows a redirect to an address for which nobody was bound. -/
def moves (a : Signing σ) : Bool :=
  match a.directive with
  | .redirect target => !a.found.leadsTo target
  | _ => false

/-- The attempt is bound as it should be, and signed if and only if there are both a signer and
credentials. -/
structure Proper (source : SignerSource σ) (first : Uri) (a : Signing σ) : Prop where
  binds : Rebinds source first a.found a.directive a.asked a.binding
  signed : a.signers = if a.credentials then a.binding.signer?.toList else []

/-- The attempts of a call, the last one first. The first of them finds nothing bound; each of
the others finds the binding of the one before. -/
inductive History (source : SignerSource σ) (first : Uri) : List (Signing σ) → Prop where
  | none : History source first []
  | start {a : Signing σ} (proper : a.Proper source first) (start : a.directive.isStart = true)
    (unbound : a.found = .unbound) : History source first [a]
  | again {a b : Signing σ} {rest : List (Signing σ)} (history : History source first (b :: rest))
    (proper : a.Proper source first) (again : a.directive.isStart = false)
    (found : a.found = b.binding) : History source first (a :: b :: rest)

theorem History.ne_unbound {source : SignerSource σ} {first : Uri} {a : Signing σ}
    {rest : List (Signing σ)} (h : History source first (a :: rest)) : a.binding ≠ .unbound := by
  -- An attempt finds the binding of the one before, so the induction is on the attempts before.
  induction rest generalizing a with
  | nil =>
    cases h with
    | start proper start => exact proper.binds.ne_unbound fun again => by simp_all
  | cons b rest ih =>
    cases h with
    | again history proper again found =>
      exact proper.binds.ne_unbound fun _ => found ▸ ih history

/-- For an attempt somebody is asked if it is the first one or moves, and nobody otherwise. -/
theorem Proper.length_asked {source : SignerSource σ} {first : Uri} {a : Signing σ}
    (h : a.Proper source first) :
    a.asked.length = a.directive.isStart.toNat + a.moves.toNat := by
  obtain ⟨directive, found, asked, binding, credentials, signers⟩ := a
  have hbinds : Rebinds source first found directive asked binding := h.binds
  cases hbinds with
  | start world => rfl
  | retry failure => rfl
  | authRetry parameters => rfl
  | stay bound => simp [moves, bound, Directive.isStart]
  | move other world => simp [moves, other, Directive.isStart]

/-- One is asked for the first attempt, and one for each that moves. -/
theorem History.length_asked {source : SignerSource σ} {first : Uri} {signings : List (Signing σ)}
    (h : History source first signings) (hne : signings ≠ []) :
    ((signings.map asked).reverse.flatten).length = 1 + signings.countP moves := by
  have hmoves : ∀ a : Signing σ, (if a.moves = true then 1 else 0) = a.moves.toNat := fun a => by
    cases a.moves <;> rfl
  induction h with
  | none => exact absurd rfl hne
  | @start a proper start unbound =>
    have hasked := proper.length_asked
    rw [start] at hasked
    rw [List.countP_singleton, hmoves]
    simpa using hasked
  | @again a b rest history proper again found ih =>
    have hasked := proper.length_asked
    have hrest := ih (by simp)
    rw [again] at hasked
    rw [List.map_cons, List.reverse_cons, List.flatten_append, List.length_append, hrest,
      List.countP_cons (a := a), hmoves, List.flatten_singleton, hasked]
    simp only [Bool.toNat_false]
    omega

end Signing

/-! ### Every step -/

/-- The book agrees with the run, and so far everybody signed as he should. -/
structure Booked (source : SignerSource σ) (first : Uri) (run : Run σ) : Prop where
  bound : run.binding = run.journal.book.bound
  history : Signing.History source first run.journal.signings
  lookups : run.journal.lookups = (run.journal.signings.map Signing.asked).reverse.flatten

/-- An attempt is under way that has not come to its signature. -/
structure Drafted (source : SignerSource σ) (first : Uri) (directive : Directive σ)
    (credentials : Bool) (run : Run σ) : Prop extends Booked source first run where
  todo : run.journal.book.directive = directive
  identity : run.journal.book.credentials = credentials
  unasked : run.journal.book.asked = []
  again : directive.isStart = run.journal.signings.isEmpty

/-- An attempt is bound that is still to be signed. -/
structure Bound (source : SignerSource σ) (first : Uri) (signer : Option (Signer σ))
    (credentials : Bool) (run : Run σ) : Prop where
  bound : run.binding = run.journal.book.bound
  lookups : run.journal.lookups = (run.journal.signings.map Signing.asked).reverse.flatten
  history : ∃ a rest, run.journal.signings = a :: rest ∧ a.signers = [] ∧
    Signing.History source first
      ({ a with signers := if credentials then signer.toList else [] } :: rest)

def bookEffects : List Effect := .binding :: signingKinds.map .records

section

variable {source : SignerSource σ} {first : Uri} {directive : Directive σ} {credentials : Bool}
  {effects : List Effect} {run run' : Run σ}

/-- An event that changes neither binding nor history. -/
theorem Booked.concat (h : Booked source first run) {e : Event σ}
    (hsame : (run.journal.book.enter e).signings = run.journal.book.signings)
    (hquiet : e.kind ≠ .signerAsked) (hj : run'.journal = run.journal ++ [e])
    (hbinding : run'.binding = run.binding) : Booked source first run' := by
  have hsignings : run'.journal.signings = run.journal.signings := by
    rw [Journal.signings, hj, Journal.book_concat, hsame, Journal.signings]
  constructor
  · rw [hbinding, h.bound, SigningBook.bound, SigningBook.bound, ← Journal.signings,
      ← Journal.signings, hsignings]
  · rw [hsignings]
    exact h.history
  · have hnone : Journal.lookups [e] = [] := Journal.lookups_eq_nil (by simpa using hquiet)
    rw [hsignings, ← h.lookups, hj, Journal.lookups_append, hnone, List.append_nil]

/-- Whatever has nothing to do with signers leaves the book as it is. -/
theorem Frame.book (hf : Frame effects run run') (hn : ∀ effect ∈ bookEffects, effect ∉ effects) :
    run'.binding = run.binding ∧ run'.journal.book = run.journal.book ∧
      run'.journal.lookups = run.journal.lookups := by
  obtain ⟨new, hnew, hk⟩ := hf.journal
  have hkind : ∀ kind ∈ signingKinds, ∀ e ∈ new, e.kind ≠ kind := fun kind hkind e he heq =>
    hn _ (.tail _ (List.mem_map_of_mem hkind)) (heq ▸ hk e he)
  refine ⟨hf.binding (hn _ (.head _)), ?_, ?_⟩
  · rw [hnew, Journal.book_append fun e he hmem => hkind _ hmem e he rfl]
  · rw [hnew, Journal.lookups_append, Journal.lookups_eq_nil (hkind _ (by decide)),
      List.append_nil]

theorem booked_dependsOn : DependsOn bookEffects (Booked (σ := σ) source first) := by
  intro effects run run' hn hf h
  obtain ⟨hbinding, hbook, hlookups⟩ := hf.book hn
  constructor
  · rw [hbinding, hbook, h.bound]
  · rw [Journal.signings, hbook]
    exact h.history
  · rw [hlookups, Journal.signings, hbook]
    exact h.lookups

theorem signings_dependsOn (P : List (Signing σ) → Prop) :
    DependsOn bookEffects fun run : Run σ => P run.journal.signings := by
  intro effects run run' hn hf h
  rw [Journal.signings, (hf.book hn).2.1]
  exact h

theorem drafted_dependsOn :
    DependsOn bookEffects (Drafted (σ := σ) source first directive credentials) := by
  intro effects run run' hn hf h
  obtain ⟨-, hbook, -⟩ := hf.book hn
  refine ⟨booked_dependsOn _ _ _ hn hf h.toBooked, ?_, ?_, ?_, ?_⟩
  · rw [hbook, h.todo]
  · rw [hbook, h.identity]
  · rw [hbook, h.unasked]
  · rw [Journal.signings, hbook]
    exact h.again

end

namespace CallM

variable {s : CallSetting σ α} {o : Origin} {tally : Tally} {first : Uri}
  {directive : Directive σ} {credentials : Bool} {run : Run σ}

/-- The start of an attempt opens a draft. -/
theorem startAttempt_drafts (number : Nat) (h : Booked s.context.signers first run)
    (hagain : directive.isStart = run.journal.signings.isEmpty) :
    Ends (startAttempt s directive number) run
      (fun _ run' => Drafted s.context.signers first directive false run' ∧
        run'.request = run.request)
      fun _ => Booked s.context.signers first := by
  refine (startAttempt_ends s directive number run).mono_ok fun _ run' hf => ?_
  have hbook := run.journal.book_concat (.attemptStarted number directive)
  have hstarted : Drafted s.context.signers first directive false
      { run with journal := run.journal ++ [.attemptStarted number directive] } := by
    refine ⟨h.concat rfl (by simp [Event.kind]) rfl rfl, ?_, ?_, ?_, ?_⟩
    · rw [hbook, SigningBook.enter]
    · rw [hbook, SigningBook.enter]
    · rw [hbook, SigningBook.enter]
    · rw [Journal.signings, hbook]
      exact hagain
  refine ⟨drafted_dependsOn _ _ _ (by decide) hf hstarted, ?_⟩
  exact RequestPart.eq_of_spares fun part _ => hf.part (by simp)

/-- Whether there are credentials is known before the attempt is bound. -/
theorem loadCredentials_drafts (h : Drafted s.context.signers first directive false run) :
    Ends (loadCredentials s) run
      (fun credentials run' => Drafted s.context.signers first directive credentials.isSome run' ∧
        run'.request = run.request)
      fun _ => Booked s.context.signers first := by
  have hasked : ∀ world, Drafted s.context.signers first directive true
      { run with world, journal := run.journal ++ [.credentialsAsked] } := by
    intro world
    have hbook := run.journal.book_concat .credentialsAsked
    refine ⟨h.concat rfl (by simp [Event.kind]) rfl rfl, ?_, ?_, ?_, ?_⟩
    · rw [hbook]
      exact h.todo
    · rw [hbook, SigningBook.enter]
    · rw [hbook]
      exact h.unasked
    · rw [Journal.signings, hbook]
      exact h.again
  refine (loadCredentials_ends s run).mono ?_ ?_
  · rintro credentials run' ⟨world, rfl⟩
    cases credentials with
    | none =>
      have hsame : run.journal ++ ([] : Journal σ) = run.journal := List.append_nil _
      refine ⟨?_, rfl⟩
      simp only [Option.isSome_none, Bool.false_eq_true, if_false, hsame]
      exact ⟨⟨h.bound, h.history, h.lookups⟩, h.todo, h.identity, h.unasked, h.again⟩
    | some credentials => exact ⟨hasked world, rfl⟩
  · rintro e run' ⟨world, rfl⟩
    exact (hasked world).toBooked

/-- How an attempt is bound that has somebody to ask only where it should. -/
theorem Binds.rebinds {binding : BoundSigner σ} {run' : Run σ}
    (h : Binds s directive run binding run')
    (hstart : directive.isStart = true → run.binding = .unbound ∧ run.request.endpoint = first)
    (hagain : directive.isStart = false → run.binding ≠ .unbound) :
    ∃ asked, Rebinds s.context.signers first run.binding directive asked binding ∧
      run'.journal = run.journal ++ (asked.map Event.signerAsked ++ [.signerBound binding]) ∧
      run'.binding = binding ∧ run'.request = run.request := by
  cases h with
  | settled plan =>
    cases directive with
    | start =>
      rw [(hstart rfl).1, BoundSigner.plan_of_unbound] at plan
      cases plan
    | retry failure =>
      rw [BoundSigner.plan_retry (hagain rfl)] at plan
      obtain rfl := BoundSigner.Plan.settled.inj plan
      exact ⟨[], .retry failure, rfl, rfl, rfl⟩
    | redirect target =>
      rw [BoundSigner.plan_redirect] at plan
      split at plan
      · next hbound =>
        obtain rfl := BoundSigner.Plan.settled.inj plan
        exact ⟨[], .stay hbound, rfl, rfl, rfl⟩
      · cases plan
    | authRetry parameters =>
      obtain rfl := BoundSigner.Plan.settled.inj plan
      exact ⟨[], .authRetry parameters, rfl, rfl, rfl⟩
  | @asked address signer world plan answer =>
    obtain rfl : (s.context.signers address run.world).1 = signer := by rw [answer]
    cases directive with
    | start =>
      obtain ⟨hunbound, rfl⟩ := hstart rfl
      rw [hunbound, BoundSigner.plan_of_unbound] at plan
      obtain rfl := BoundSigner.Plan.ask.inj plan
      exact ⟨[_], .start run.world, rfl, rfl, rfl⟩
    | retry failure =>
      rw [BoundSigner.plan_retry (hagain rfl)] at plan
      cases plan
    | redirect target =>
      rw [BoundSigner.plan_redirect] at plan
      split at plan
      · cases plan
      · next hother =>
        obtain rfl := BoundSigner.Plan.ask.inj plan
        exact ⟨[_], .move (by simpa using hother) run.world, rfl, rfl, rfl⟩
    | authRetry parameters => cases plan

/-- What comes to the signature is entered in the book. -/
theorem bindSigner_books (h : Drafted s.context.signers first directive credentials run)
    (hfirst : directive.isStart = true → run.request.endpoint = first)
    {failed : Error → Run σ → Prop} :
    Ends (bindSigner s directive) run
      (fun signer => Bound s.context.signers first signer credentials) failed := by
  refine (bindSigner_ends s directive run).mono_ok ?_
  rintro _ run' ⟨binding, rfl, hbinds⟩
  have hempty : directive.isStart = true → run.journal.signings = [] := fun hstart =>
    List.isEmpty_iff.mp (h.again ▸ hstart)
  have hunbound : directive.isStart = true → run.binding = .unbound := by
    intro hstart
    rw [h.bound, SigningBook.bound, ← Journal.signings, hempty hstart]
    rfl
  have hkept : ∀ b rest, run.journal.signings = b :: rest → run.binding = b.binding := by
    intro b rest heq
    rw [h.bound, SigningBook.bound, ← Journal.signings, heq]
    rfl
  have hagain : directive.isStart = false → run.binding ≠ .unbound := by
    intro hlater
    cases heq : run.journal.signings with
    | nil => simp [h.again, heq] at hlater
    | cons b rest =>
      have hhistory := h.history
      rw [heq] at hhistory
      rw [hkept b rest heq]
      exact hhistory.ne_unbound
  obtain ⟨asked, hrebinds, hj, hbinding, -⟩ :=
    hbinds.rebinds (fun hstart => ⟨hunbound hstart, hfirst hstart⟩) hagain
  have hbook : run'.journal.book =
      { run.journal.book with
        asked := asked
        signings := ⟨directive, run.binding, asked, binding, credentials, []⟩ ::
          run.journal.signings } := by
    rw [hj, ← List.append_assoc, Journal.book_concat, Journal.book_asked, h.unasked,
      List.nil_append, SigningBook.enter, SigningBook.draft]
    simp only [h.todo, h.identity, h.bound]
    rfl
  constructor
  · rw [hbook, hbinding]
    rfl
  · rw [Journal.signings, hbook, hj, Journal.lookups_append, h.lookups, Journal.lookups_append,
      Journal.lookups_asked]
    simp [Journal.lookups]
  · refine ⟨_, run.journal.signings, by rw [Journal.signings, hbook], rfl, ?_⟩
    cases heq : run.journal.signings with
    | nil =>
      have hstart : directive.isStart = true := by rw [h.again, heq]; rfl
      exact .start ⟨hrebinds, rfl⟩ hstart (hunbound hstart)
    | cons b rest =>
      have hlater : directive.isStart = false := by rw [h.again, heq]; rfl
      have hhistory := h.history
      rw [heq] at hhistory
      exact .again hhistory ⟨hrebinds, rfl⟩ hlater (hkept b rest heq)

/-- The attempt is signed if there are both a signer and credentials. -/
theorem signWith_books {signer : Option (Signer σ)} {credentials : Option Credentials}
    (h : Bound s.context.signers first signer credentials.isSome run) :
    Ends (signWith signer credentials) run
      (fun _ run' => Booked s.context.signers first run' ∧ run'.journal.signings.isEmpty = false)
      fun _ => Booked s.context.signers first := by
  obtain ⟨a, rest, hsignings, hsigners, hhistory⟩ := h.history
  have hbooked : ∀ run', SignsWith run run' signer credentials →
      Booked s.context.signers first run' ∧ run'.journal.signings.isEmpty = false := by
    intro run' hsigns
    cases hsigns with
    | unsigned missing same =>
      have hnobody : (if credentials.isSome = true then signer.toList else []) = a.signers := by
        rcases missing with rfl | rfl <;> simp [hsigners]
      rw [hnobody, ← hsignings] at hhistory
      rw [same]
      exact ⟨⟨h.bound, hhistory, h.lookups⟩, by rw [hsignings]; rfl⟩
    | @signed signer credentials handed hsigned =>
      obtain ⟨-, -, ⟨offset, hj⟩, hbinding⟩ := hsigned
      have hbook : run'.journal.book =
          { run.journal.book with signings := { a with signers := [signer] } :: rest } := by
        rw [hj, Journal.book_concat, SigningBook.enter, ← Journal.signings, hsignings,
          List.modifyHead_cons, hsigners]
        rfl
      have hlookups : run'.journal.lookups = run.journal.lookups := by
        rw [hj, Journal.lookups_append]
        simp [Journal.lookups]
      refine ⟨⟨?_, ?_, ?_⟩, by rw [Journal.signings, hbook]; rfl⟩
      · rw [hbinding, h.bound, hbook, SigningBook.bound, SigningBook.bound, ← Journal.signings,
          hsignings]
        rfl
      · rw [Journal.signings, hbook]
        exact hhistory
      · rw [hlookups, h.lookups, hsignings, Journal.signings, hbook]
        rfl
  exact (signWith_ends signer credentials run).mono (fun _ => hbooked)
    fun _ run' hsigns => (hbooked run' hsigns).1

/-- What an attempt starts from is not the business of who signs, except that the first one has to
keep its endpoint. -/
theorem prepare_drafts (h : Drafted s.context.signers first directive credentials run)
    (hfirst : directive.isStart = true → run.request.endpoint = first) :
    Ends (prepare o directive) run
      (fun _ run' => Drafted s.context.signers first directive credentials run' ∧
        (directive.isStart = true → run'.request.endpoint = first))
      fun _ => Booked s.context.signers first := by
  by_cases hstart : directive.isStart = true
  · have hmark : Footprint bodyEffects
        (do if (← request).body.isRemarked then markBody : CallM σ Unit) :=
      .bind .request fun _ => .ite markBody_footprint (.pure ())
    have hprepare : prepare o directive = (do if (← request).body.isRemarked then markBody) := by
      simp [prepare, hstart]
    rw [hprepare]
    refine (hmark.ends run).mono (fun _ run' hf => ⟨?_, fun _ => ?_⟩) fun _ run' hf => ?_
    · exact drafted_dependsOn _ _ _ (by decide) hf h
    · have hsame : run'.request.endpoint = run.request.endpoint :=
        hf.spares (.request .endpoint) (by decide)
      rw [hsame, hfirst hstart]
    · exact booked_dependsOn _ _ _ (by decide) hf.1 h.toBooked
  · refine ((prepare_footprint o directive).keeps drafted_dependsOn (by decide) h).mono
      (fun _ _ h => ⟨h, fun hstart' => absurd hstart' hstart⟩) fun _ _ h => h.toBooked

end CallM

/-- What the book says in each phase of a call that began with the run. -/
def Phase.Books (source : SignerSource σ) (first : Uri) (start : Run σ) :
    Phase σ α → Run σ → Prop
  | .outset, run => run = start
  | .begun, run => Booked source first run ∧ run.journal.signings = [] ∧
      run.request.endpoint = first
  | .ready _ _ directive, run => Booked source first run ∧
      directive.isStart = run.journal.signings.isEmpty ∧
      (directive.isStart = true → run.request.endpoint = first)
  | .waiting .., run => Booked source first run ∧ run.journal.signings.isEmpty = false
  | .failing _, run => Booked source first run
  | .ended _, run => Booked source first run

namespace CallM

variable {s : CallSetting σ α} {o : Origin} {tally : Tally} {first : Uri}
  {directive : Directive σ} {run : Run σ}

/-- The first attempt still has its endpoint. -/
theorem endpoint_dependsOn (directive : Directive σ) (first : Uri) :
    DependsOn [.request .endpoint] fun run : Run σ =>
      directive.isStart = true → run.request.endpoint = first := by
  intro effects run run' hn hf h hstart
  have hsame : run'.request.endpoint = run.request.endpoint :=
    hf.spares _ (hn (.request .endpoint) (.head _))
  rw [hsame, h hstart]

theorem approach_drafts (number : Nat)
    (h : Drafted s.context.signers first directive false run ∧
      (directive.isStart = true → run.request.endpoint = first)) :
    Ends (approach s directive number) run
      (fun credentials run' =>
        Drafted s.context.signers first directive credentials.isSome run' ∧
          (directive.isStart = true → run'.request.endpoint = first))
      fun _ => Booked s.context.signers first := by
  have hdrafted : ∀ credentials, DependsOn _ fun run =>
      Drafted s.context.signers first directive credentials run ∧
        (directive.isStart = true → run.request.endpoint = first) := fun _ =>
    drafted_dependsOn.and (endpoint_dependsOn directive first)
  unfold approach
  refine (((checkInterruption_footprint s).keeps (hdrafted false) (by decide) h).mono_failed
      fun _ _ h => h.1.toBooked).bind fun _ checked h => ?_
  refine (loadCredentials_drafts h.1).bind fun credentials loaded hloaded => ?_
  have h : Drafted s.context.signers first directive credentials.isSome loaded ∧
      (directive.isStart = true → loaded.request.endpoint = first) :=
    ⟨hloaded.1, fun hstart => hloaded.2 ▸ h.2 hstart⟩
  exact (((beginAgain_footprint s directive number).keeps (hdrafted _) (by decide) h).mono_failed
      fun _ _ h => h.1.toBooked).bind fun _ _ h => h

theorem sendOut_books (number : Nat)
    (h : Drafted s.context.signers first directive false run ∧
      (directive.isStart = true → run.request.endpoint = first)) :
    Ends (sendOut s directive number) run
      (fun _ run' => Booked s.context.signers first run' ∧
        run'.journal.signings.isEmpty = false)
      fun _ => Booked s.context.signers first := by
  have hbooked : DependsOn bookEffects (Booked s.context.signers first) := booked_dependsOn
  have hsigned := hbooked.and (signings_dependsOn (·.isEmpty = false))
  unfold sendOut
  refine (approach_drafts number h).bind fun credentials _ h => ?_
  refine (((stampRetryHeader_footprint number).keeps
    (drafted_dependsOn.and (endpoint_dependsOn directive first)) (by decide) h).mono_failed
        fun _ _ h => h.1.toBooked).bind fun _ _ h => ?_
  refine (bindSigner_books h.1 h.2).bind fun signer _ h => ?_
  refine (signWith_books h).bind fun _ _ h => ?_
  exact ((sendOff_footprint s).keeps hsigned (by decide) h).mono_failed fun _ _ h => h.1

theorem depart_books {start : Run σ}
    (h : (Phase.ready o tally directive : Phase σ α).Books s.context.signers first start run) :
    Ends (depart s o tally directive) run
      (fun _ run' => Booked s.context.signers first run' ∧
        run'.journal.signings.isEmpty = false)
      fun _ => Booked s.context.signers first := by
  have hbooked : DependsOn bookEffects (Booked s.context.signers first) := booked_dependsOn
  have hready := hbooked.and (signings_dependsOn (directive.isStart = ·.isEmpty))
  obtain ⟨hbooked, hagain, hfirst⟩ := h
  unfold depart
  refine (((checkInterruption_footprint s).keeps
    (hready.and (endpoint_dependsOn directive first)) (by decide)
    ⟨⟨hbooked, hagain⟩, hfirst⟩).mono_failed fun _ _ h => h.1.1).bind
    fun _ checked h => ?_
  refine (startAttempt_drafts _ h.1.1 h.1.2).bind fun _ started hstarted => ?_
  have hfirst : directive.isStart = true → started.request.endpoint = first :=
    fun hstart => hstarted.2 ▸ h.2 hstart
  refine (prepare_drafts hstarted.1 hfirst).bind fun _ _ h => ?_
  refine ends_onFailure.mpr ((sendOut_books _ h).mono_failed fun _ stopped h => ?_)
  exact booked_dependsOn _ _ _ (by decide) (countFailedAttempt_frame stopped) h

theorem books_phaseInvariant {start : Run σ} (hjournal : start.journal = [])
    (hbinding : start.binding = .unbound)
    (hlaunch : Ends (launch s) start (fun _ run => run.request.endpoint = first)
      fun _ _ => True) :
    PhaseInvariant s (Phase.Books s.context.signers first start) where
  launch := by
    rintro run rfl
    have hstart : Booked s.context.signers first run :=
      ⟨by rw [hbinding, hjournal]; rfl, by rw [hjournal]; exact .none, by rw [hjournal]; rfl⟩
    refine (((launch_footprint s).ends run).and hlaunch).mono ?_ ?_
    · rintro _ run' ⟨hf, hendpoint⟩
      refine ⟨booked_dependsOn _ _ _ (by decide) hf hstart, ?_, hendpoint⟩
      rw [Journal.signings, (hf.book (by decide)).2.1, hjournal]
      rfl
    · rintro e run' ⟨hf, -⟩
      exact booked_dependsOn _ _ _ (by decide) hf.1 hstart
  markOrigin := by
    rintro run ⟨hbooked, hnone, hendpoint⟩
    refine (markOrigin_footprint.ends run).mono (fun o run' hf => ?_) fun e run' hf => ?_
    · have hsame : run'.request.endpoint = run.request.endpoint :=
        hf.spares (.request .endpoint) (by decide)
      refine ⟨booked_dependsOn _ _ _ (by decide) hf hbooked, ?_, fun _ => hsame ▸ hendpoint⟩
      rw [Journal.signings, (hf.book (by decide)).2.1, ← Journal.signings, hnone]
      rfl
    · exact booked_dependsOn _ _ _ (by decide) hf.1 hbooked
  depart := fun o tally directive run h => depart_books h
  arrive := by
    rintro o tally limit answer run ⟨hbooked, hne⟩
    have hbooks : DependsOn bookEffects (Booked s.context.signers first) := booked_dependsOn
    have hwaiting := hbooks.and (signings_dependsOn (·.isEmpty = false))
    refine (arrive_keeps hwaiting (by decide) ⟨hbooked, hne⟩).mono ?_ fun _ _ h => h.1
    intro t run' h
    cases t with
    | finished response => exact h.1
    | again tally' directive' less =>
      obtain ⟨hfollows, hbooked, hne⟩ := h
      have hlater : directive'.isStart = false := by
        cases directive' with
        | start => exact hfollows.elim
        | _ => rfl
      refine ⟨hbooked, by rw [hlater, hne], fun hstart => ?_⟩
      rw [hlater] at hstart
      cases hstart
  giveUp := fun e run h => booked_dependsOn _ _ _ (by decide) (giveUp_frame s run) h

end CallM

/-- The first attempt is bound to the signer of the endpoint with which the attempts begin. An
attempt that repeats the authentication is bound to what it was given; one that follows a
redirect to the signer of its target, unless it is bound to that address already; every other
attempt to what the one before was bound to. An attempt is signed if and only if there are both a
signer and credentials. Somebody is asked for a signer once, and once for each redirect to another
address. -/
theorem signer_of_every_attempt (c : Client σ) (handlers : Handlers σ α) (context : CallContext σ)
    (state : ClientState) (request : HttpRequest σ) (world : σ) {o : HttpRequest σ}
    (ho : c.outset? handlers context state request world = some o) :
    let j := (c.call handlers context state request world).1.journal
    Signing.History context.signers o.endpoint j.signings ∧
      j.lookups = (j.signings.map Signing.asked).reverse.flatten ∧
      (j.signings ≠ [] → j.lookups.length = 1 + j.signings.countP Signing.moves) := by
  have hlaunch : CallM.Ends (CallM.launch (c.settingAt handlers context request world))
      (c.runAt state request world) (fun _ run => run.request.endpoint = o.endpoint)
      fun _ _ => True := by
    refine (Client.launch_ends c handlers context state request world).mono_ok ?_
    intro _ run hrun
    rw [Option.some.inj (hrun.symm.trans ho)]
  have hinvariant : CallM.PhaseInvariant (c.settingAt handlers context request world)
      (Phase.Books context.signers o.endpoint (c.runAt state request world)) :=
    CallM.books_phaseInvariant rfl rfl hlaunch
  refine Client.report_of_phases (Q := fun _ j =>
    Signing.History context.signers o.endpoint j.signings ∧
      j.lookups = (j.signings.map Signing.asked).reverse.flatten ∧
      (j.signings ≠ [] → j.lookups.length = 1 + j.signings.countP Signing.moves))
    hinvariant rfl ?_ ⟨.none, rfl, fun hne => absurd rfl hne⟩
  intro result conducted last h hf
  have hlast := booked_dependsOn _ _ _ (by decide) hf h
  refine ⟨hlast.history, hlast.lookups, fun hne => ?_⟩
  rw [hlast.lookups]
  exact hlast.history.length_asked hne

open Rehearsal in
theorem signer_of_every_attempt_elsewhere :
    let j := (rehearse client expired (context (.fixed (some .idle)) none) (client.start 0) paid
      [elsewhere, .timeout, .answering .ok {}]).journal
    j.signings.map (fun a => a.signers.length) = [1, 1, 1] ∧
      j.signings.countP Signing.moves = 1 ∧ j.lookups.length = 2 := by
  intro j
  have hfacts : j.signings.map (fun a => a.signers.length) = [1, 1, 1] ∧
      j.signings.countP Signing.moves = 1 := by
    simp only [j, Rehearsal.rehearse, Client.call, CallM.call, CallM.conduct,
      CallM.attempts_eq_turnsIn]
    decide +kernel
  have hout : (client.outset? (handlers expired) (context (.fixed (some .idle)) none)
      (client.start 0) paid { steps := [elsewhere, .timeout, .answering .ok {}] }).isSome := by
    decide +kernel
  obtain ⟨o, ho⟩ := Option.isSome_iff_exists.mp hout
  have hlookups : j.signings ≠ [] → j.lookups.length = 1 + j.signings.countP Signing.moves :=
    (signer_of_every_attempt client (handlers expired) (context (.fixed (some .idle)) none)
      (client.start 0) paid { steps := [elsewhere, .timeout, .answering .ok {}] } ho).2.2
  have hne : j.signings ≠ [] := by
    intro hnil
    simp [hnil] at hfacts
  refine ⟨hfacts.1, hfacts.2, ?_⟩
  rw [hlookups hne, hfacts.2]

end ServiceCall
