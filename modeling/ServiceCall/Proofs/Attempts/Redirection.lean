import ServiceCall.Proofs.Address.Delivery
import ServiceCall.Proofs.Attempts.Restoration

/-!
Redirects. An attempt that follows a redirect has the method and the body of the one that was
redirected. It sends no form: parameters that went into the payload are lost on the way.
-/

namespace ServiceCall

variable {σ α : Type}

/-! ### Payloads -/

theorem Body.rest_eq_nil_of_isEmpty {b : Body} (h : b.isEmpty = true) : b.rest = [] := by
  cases b with
  | empty => rfl
  | bytes data position mark =>
    rw [rest, List.isEmpty_iff.mp h, List.drop_nil]
  | _ => exact absurd h Bool.false_ne_true

namespace HttpRequest

variable {r r' : HttpRequest σ}

/-- The request is sent in the same way, whatever else has changed about it. -/
structure SendsAlike (r r' : HttpRequest σ) : Prop where
  method : r'.method = r.method
  body : r'.body = r.body
  redirectTarget : r'.redirectTarget = r.redirectTarget

theorem mild_sendsAlike : Mild (SendsAlike (σ := σ)) where
  refl := fun _ => ⟨rfl, rfl, rfl⟩
  reads := fun _ _ h => ⟨h.method, h.body.symm ▸ .refl⟩

theorem form?_of_redirectTarget {target : Uri} (h : r.redirectTarget = some target) :
    r.form? = none := by
  simp [form?, sendsForm, h]

theorem isEmpty_of_form? {form : String} (h : r.form? = some form) : r.body.isEmpty = true := by
  by_contra hne
  simp [form?, sendsForm, hne] at h

end HttpRequest

/-- A signer that changes nothing about how a request is sent hands on what was restored. -/
structure SentFrom (o : HttpRequest σ) (directive : Directive σ) (r : HttpRequest σ) : Prop where
  method : r.method = o.method
  alike : o.body.Alike r.body
  rest : r.body.rest = o.body.rest
  aimed : Aimed directive r

theorem HandedOn.sentFrom {o r : HttpRequest σ} {directive : Directive σ}
    (h : HandedOn HttpRequest.SendsAlike o directive r) : SentFrom o directive r := by
  obtain ⟨stamped, ⟨value, hstamped⟩, haimed, hsame⟩ := h
  constructor
  · rw [hsame.method, hstamped.method]
  · rw [hsame.body]
    exact hstamped.alike
  · rw [hsame.body, hstamped.rest]
  · intro target htarget
    rw [hsame.redirectTarget, haimed target htarget]

namespace SentFrom

variable {o r : HttpRequest σ} {directive : Directive σ} {payload : Bytes}

theorem payload_of_no_form (h : SentFrom o directive r) (hhonest : o.body.Honest)
    (hform : r.form? = none) (hpayload : r.payload.1 = .ok payload) : payload = o.body.rest := by
  rw [HttpRequest.payload_of_no_form hform] at hpayload
  rw [Body.readRemaining_eq_rest (h.alike.honest hhonest) hpayload, h.rest]

theorem payload_of_form (h : SentFrom o directive r) {form : String} (hform : r.form? = some form)
    (hpayload : r.payload.1 = .ok payload) :
    payload = Bytes.ofString form ∧ o.body.rest = [] := by
  rw [HttpRequest.payload_of_form? hform] at hpayload
  refine ⟨(Except.ok.inj hpayload).symm, ?_⟩
  rw [← h.rest, Body.rest_eq_nil_of_isEmpty (HttpRequest.isEmpty_of_form? hform)]

end SentFrom

/-! ### The next attempt -/

/-- An attempt that follows a redirect is sent with the method of any attempt before it. Its
payload is all that was left of the body when the attempts began, which is the payload of an
attempt before it exactly if that one has sent no form, or an empty one. -/
theorem payload_of_followed_redirect (c : Client σ) (handlers : Handlers σ α)
    (context : CallContext σ) (state : ClientState) (request : HttpRequest σ) (world : σ)
    {o r r' : HttpRequest σ} {before between since after : Journal σ} {number : Nat} {target : Uri}
    {limit limit' : Option Duration} {inFlight inFlight' : Nat}
    (hs : context.SignersTouch HttpRequest.SendsAlike)
    (ht : c.transport.Touches HttpRequest.Reads)
    (ho : c.outset? handlers context state request world = some o)
    (hrep : o.body.isRepeatable = true) (hhonest : o.body.Honest)
    (hj : (c.call handlers context state request world).1.journal =
      before ++ .dispatched r limit inFlight :: (between ++
        .attemptStarted number (.redirect target) ::
          (since ++ .dispatched r' limit' inFlight' :: after)))
    (hsince : ∀ e ∈ since, e.kind ≠ .attemptStarted ∧ e.kind ≠ .dispatched) :
    r'.method = r.method ∧ r'.form? = none ∧
      (o.body.Sound → r'.payload.1 = .ok o.body.rest) ∧
      ∀ payload payload', r.payload.1 = .ok payload → r'.payload.1 = .ok payload' →
        (payload' = payload ↔ ∀ form, r.form? = some form → form = "") := by
  have hobeys := (Client.call_sends HttpRequest.mild_sendsAlike hs ht hrep ho).1
  obtain ⟨directive, -, hhanded⟩ := hobeys before _ _ hj
  obtain ⟨directive', hpending, hhanded'⟩ :=
    hobeys (before ++ .dispatched r limit inFlight :: between ++
      .attemptStarted number (.redirect target) :: since) (.dispatched r' limit' inFlight') after
      (by rw [hj]; simp)
  rw [Journal.pending_of_started _ hsince] at hpending
  obtain rfl := Option.some.inj hpending
  have hsent := hhanded.sentFrom
  have hsent' := hhanded'.sentFrom
  have hform' : r'.form? = none := HttpRequest.form?_of_redirectTarget (hsent'.aimed target rfl)
  refine ⟨hsent'.method.trans hsent.method.symm, hform', fun hsound => ?_, ?_⟩
  · rw [HttpRequest.payload_of_no_form hform', ← hsent'.rest]
    exact Body.readRemaining_of_sound (hsent'.alike.honest hhonest) (hsent'.alike.sound hsound)
  · intro payload payload' hpayload hpayload'
    have hrest' : payload' = o.body.rest := hsent'.payload_of_no_form hhonest hform' hpayload'
    cases hform : r.form? with
    | none =>
      rw [hrest', hsent.payload_of_no_form hhonest hform hpayload]
      simp
    | some form =>
      obtain ⟨hpayload, hrest⟩ := hsent.payload_of_form hform hpayload
      rw [hrest', hrest, hpayload, eq_comm, Bytes.ofString_eq_nil_iff]
      simp

/-! ### Rehearsals -/

/-- An attempt, and one that follows a redirect. -/
theorem Journal.exists_followed {j : Journal σ}
    (h : j.filterMap Event.progress? = [.started false, .sent, .started true, .sent]) :
    ∃ before r limit inFlight between number target since r' limit' inFlight' after,
      j = before ++ .dispatched r limit inFlight :: (between ++
        .attemptStarted number (.redirect target) ::
          (since ++ .dispatched r' limit' inFlight' :: after)) ∧
      ∀ e ∈ since, e.kind ≠ .attemptStarted ∧ e.kind ≠ .dispatched := by
  obtain ⟨earlier, first, rest, rfl, -, -, hrest⟩ := List.filterMap_eq_cons_iff.mp h
  obtain ⟨before, sent, rest, rfl, -, hsent, hrest⟩ := List.filterMap_eq_cons_iff.mp hrest
  obtain ⟨between, started, rest, rfl, -, hstarted, hrest⟩ := List.filterMap_eq_cons_iff.mp hrest
  obtain ⟨since, sent', after, rfl, hsince, hsent', -⟩ := List.filterMap_eq_cons_iff.mp hrest
  have hdispatched : ∀ e : Event σ, e.progress? = some .sent →
      ∃ r limit inFlight, e = .dispatched r limit inFlight := by
    intro e he
    cases e with
    | dispatched r limit inFlight => exact ⟨r, limit, inFlight, rfl⟩
    | attemptStarted number directive => cases directive <;> simp [Event.progress?] at he
    | _ => simp [Event.progress?] at he
  obtain ⟨r, limit, inFlight, rfl⟩ := hdispatched sent hsent
  obtain ⟨r', limit', inFlight', rfl⟩ := hdispatched sent' hsent'
  cases started with
  | attemptStarted number directive =>
    cases directive with
    | redirect target =>
      refine ⟨earlier ++ first :: before, r, limit, inFlight, between, number, target, since, r',
        limit', inFlight', after, by simp, ?_⟩
      exact fun e hmem => Event.kind_of_progress? (hsince e hmem)
    | _ => simp [Event.progress?] at hstarted
  | _ => simp [Event.progress?] at hstarted

namespace Rehearsal

/-- The service is elsewhere. -/
def elsewhere : Step :=
  .answering .temporaryRedirect
    (({} : Headers).set "location" ⟨Bytes.ofString "https://other.example.com/"⟩)

/-- Nobody signs. -/
def unsigned : CallContext Stage := context (.fixed none) none

end Rehearsal

open Rehearsal in
theorem payload_of_followed_redirect_elsewhere :
    ∃ before r limit inFlight between number target since r' limit' inFlight' after,
      (rehearse client expired unsigned (client.start 0) paid
        [elsewhere, .answering .ok {}]).journal =
        before ++ .dispatched r limit inFlight :: (between ++
          .attemptStarted number (.redirect target) ::
            (since ++ .dispatched r' limit' inFlight' :: after)) ∧
      r'.method = r.method ∧ r'.payload.1 = .ok (Bytes.ofString "payload") := by
  have hmarks : (rehearse client expired unsigned (client.start 0) paid
      [elsewhere, .answering .ok {}]).journal.filterMap Event.progress? =
        [.started false, .sent, .started true, .sent] := by
    simp only [Rehearsal.rehearse, Client.call, CallM.call, CallM.conduct,
      CallM.attempts_eq_turnsIn]
    decide +kernel
  have hout : (client.outset? (handlers expired) unsigned (client.start 0) paid
      { steps := [elsewhere, .answering .ok {}] }).map (fun o => (o.body.isRepeatable, o.body.rest,
        o.body.source?.isNone)) = some (true, Bytes.ofString "payload", true) := by
    decide +kernel
  obtain ⟨o, ho, hfacts⟩ := Option.map_eq_some_iff.mp hout
  simp only [Prod.mk.injEq, Option.isNone_iff_eq_none] at hfacts
  obtain ⟨hrep, hrest, hsource⟩ := hfacts
  have hsource' : ∀ source, o.body.source? ≠ some source := by simp [hsource]
  have hunsigned : unsigned.SignersTouch HttpRequest.SendsAlike := by
    constructor
    · rintro _ _ _ ⟨⟩
    · rintro _ _ _ _ _ _ ⟨⟩
  obtain ⟨before, r, limit, inFlight, between, number, target, since, r', limit', inFlight', after,
    hj, hsince⟩ := Journal.exists_followed hmarks
  obtain ⟨hmethod, -, hpayload, -⟩ := payload_of_followed_redirect client (handlers expired)
    unsigned (client.start 0) paid { steps := [elsewhere, .answering .ok {}] } hunsigned
    transport_reads ho hrep (fun source h => absurd h (hsource' source)) hj hsince
  refine ⟨before, r, limit, inFlight, between, number, target, since, r', limit', inFlight', after,
    hj, hmethod, ?_⟩
  rw [← hrest]
  exact hpayload fun source h => absurd h (hsource' source)

open Rehearsal in
/-- Parameters that were sent as a form are lost when a redirect is followed. -/
theorem form_lost_by_redirect :
    (rehearse client expired unsigned (client.start 0) (request.addParameter "a" "1")
        [elsewhere, .answering .ok {}]).journal.dispatches.map
        (fun (r, _, _) => (r.method = .post, r.form?, r.payload.1.toOption)) =
      [(true, some "a=1", some (Bytes.ofString "a=1")), (true, none, some [])] := by
  simp only [Rehearsal.rehearse, Client.call, CallM.call, CallM.conduct,
    CallM.attempts_eq_turnsIn]
  decide +kernel

end ServiceCall
