import ServiceCall.Proofs.Clock.Accuracy
import ServiceCall.Proofs.Clock.Writing

/-!
Dates in messages. A date stands behind the first parenthesis, and its end is looked for in the
whole message. So it is found unless something before it looks like its end, or something behind
it looks more like its end than its end does.
-/

namespace ServiceCall.ClockOffset

open Calendar

/-! ### The first occurrence of a text -/

section

variable {needle : List Char} {c : Char}

/-- What is not part of a text ends every occurrence that is under way. -/
theorem isPrefixOf_append_cons (hc : c ∉ needle) (front rest : List Char) :
    needle.isPrefixOf (front ++ c :: rest) = needle.isPrefixOf front := by
  induction needle generalizing front with
  | nil => simp
  | cons n needle ih =>
    obtain ⟨hne, hneedle⟩ := List.ne_and_not_mem_of_not_mem_cons hc
    cases front with
    | nil => simp [List.isPrefixOf, Ne.symm hne]
    | cons a front => simp [List.isPrefixOf, ih hneedle front]

/-- A text occurs before a character that is no part of it, or else behind. -/
theorem before?_append_cons (hneedle : needle ≠ []) (hc : c ∉ needle) (front rest : List Char) :
    before? needle (front ++ c :: rest) =
      (before? needle front <|> (before? needle rest).map (front ++ c :: ·)) := by
  induction front with
  | nil =>
    have hnone : needle.isPrefixOf ([] ++ c :: rest) = false := by
      rw [isPrefixOf_append_cons hc]
      cases needle with
      | nil => exact absurd rfl hneedle
      | cons n needle => rfl
    rw [List.nil_append] at hnone
    simp [before?, hnone, hneedle]
  | cons a front ih =>
    have hfirst := isPrefixOf_append_cons hc (a :: front) rest
    rw [List.cons_append] at hfirst
    simp only [List.cons_append, before?, hfirst]
    split
    · rfl
    · rw [ih]
      cases before? needle front with
      | none => simp [Function.comp_def]
      | some found => rfl

/-- Nothing begins where there is no first character. -/
theorem before?_append (hc : c ∉ front) (rest : List Char) :
    before? (c :: needle) (front ++ rest) = (before? (c :: needle) rest).map (front ++ ·) := by
  induction front with
  | nil => simp
  | cons a front ih =>
    obtain ⟨hne, hfront⟩ := List.ne_and_not_mem_of_not_mem_cons hc
    simp [before?, List.isPrefixOf, hne, ih hfront, Function.comp_def]

theorem before?_self (rest : List Char) : before? needle (needle ++ rest) = some [] := by
  cases needle with
  | nil => cases rest <;> rfl
  | cons c needle => simp [before?]

theorem before?_eq_none_iff (hneedle : needle ≠ []) {cs : List Char} :
    before? needle cs = none ↔ ¬ needle <:+: cs := by
  induction cs with
  | nil => simp [before?, hneedle]
  | cons a cs ih =>
    unfold before?
    rw [List.infix_cons_iff, ← List.isPrefixOf_iff_prefix]
    split
    · next h => simp [h]
    · next h => simp [h, ih]

theorem length_of_before? {cs front : List Char} (h : before? needle cs = some front) :
    front.length ≤ cs.length := by
  induction cs generalizing front with
  | nil =>
    unfold before? at h
    split at h
    · rw [← Option.some.inj h]
    · cases h
  | cons a cs ih =>
    unfold before? at h
    split at h
    · rw [← Option.some.inj h]
      exact Nat.zero_le _
    · obtain ⟨found, hfound, rfl⟩ := Option.map_eq_some_iff.1 h
      exact Nat.succ_le_succ (ih hfound)

end

/-! ### Messages with a date -/

/-- What stands behind a date: how far the clocks may be apart, and in which direction. -/
inductive Sign where
  | plus
  | minus
  deriving DecidableEq

def Sign.text : Sign → String
  | .plus => " + "
  | .minus => " - "

/-- The sign ends the date, whatever stands before it and behind: it does not occur before the
date, and a plus sign occurs nowhere but as the end. -/
def Sign.Delimits (sign : Sign) (front rest : List Char) : Prop :=
  ¬ Sign.plus.text.toList <:+: front ∧
    match sign with
    | .plus => True
    | .minus => ¬ Sign.minus.text.toList <:+: front ∧ ¬ Sign.plus.text.toList <:+: ' ' :: rest

instance (sign : Sign) (front rest : List Char) : Decidable (sign.Delimits front rest) := by
  cases sign
  · exact inferInstanceAs (Decidable (_ ∧ True))
  · exact inferInstanceAs (Decidable (_ ∧ _ ∧ _))

theorem Sign.toList_text_ne_nil (sign : Sign) : sign.text.toList ≠ [] := by
  cases sign <;> decide

/-- What precedes the end of the date: the first plus sign or, if there is none, the first minus
sign. -/
def headIn? (message : List Char) : Option (List Char) :=
  before? Sign.plus.text.toList message <|> before? Sign.minus.text.toList message

section

variable {front : List Char} {d : Date} {t : Time} {sign : Sign}

/-- Where a sign occurs first in a message with a date. -/
theorem before?_message (sign : Sign) (d : Date) (t : Time) (front tail : List Char) :
    before? sign.text.toList (front ++ '(' :: (CompactDate.text d t ++ tail)) =
      (before? sign.text.toList front <|>
        (before? sign.text.toList tail).map fun found =>
          front ++ '(' :: (CompactDate.text d t ++ found)) := by
  have hparenthesis : '(' ∉ sign.text.toList := by
    cases sign <;> decide
  obtain ⟨rest, hrest⟩ : ∃ rest, sign.text.toList = ' ' :: rest := by
    cases sign
    · exact ⟨['+', ' '], rfl⟩
    · exact ⟨['-', ' '], rfl⟩
  have hdate : before? sign.text.toList (CompactDate.text d t ++ tail) =
      (before? sign.text.toList tail).map (CompactDate.text d t ++ ·) := by
    rw [hrest]
    exact before?_append (CompactDate.blank_notMem_text d t) tail
  rw [before?_append_cons sign.toList_text_ne_nil hparenthesis, hdate, Option.map_map]
  rfl

theorem before?_message_of_infix (h : sign.text.toList <:+: front) (d : Date) (t : Time)
    (tail : List Char) :
    ∃ head, before? sign.text.toList (front ++ '(' :: (CompactDate.text d t ++ tail)) =
      some head ∧ head.length ≤ front.length := by
  cases hhead : before? sign.text.toList front with
  | none => exact absurd h ((before?_eq_none_iff sign.toList_text_ne_nil).1 hhead)
  | some head => exact ⟨head, by rw [before?_message, hhead]; rfl, length_of_before? hhead⟩

theorem before?_message_of_not_infix (h : ¬ sign.text.toList <:+: front) (d : Date) (t : Time)
    (tail : List Char) :
    before? sign.text.toList (front ++ '(' :: (CompactDate.text d t ++ tail)) =
      (before? sign.text.toList tail).map fun found =>
        front ++ '(' :: (CompactDate.text d t ++ found) := by
  rw [before?_message, (before?_eq_none_iff sign.toList_text_ne_nil).2 h]
  rfl

/-- Behind a minus sign a plus sign is found where it is found behind the blank of the minus
sign. -/
theorem before?_plus_minus (rest : List Char) :
    before? Sign.plus.text.toList (Sign.minus.text.toList ++ rest) =
      (before? Sign.plus.text.toList (' ' :: rest)).map ([' ', '-'] ++ ·) := by
  have hblank : before? Sign.plus.text.toList [' '] = none := by decide
  rw [show Sign.minus.text.toList ++ rest = [' '] ++ '-' :: ' ' :: rest from rfl,
    before?_append_cons (by decide) (by decide), hblank]
  rfl

theorem headIn?_of_delimits {rest : List Char} (h : sign.Delimits front rest) (d : Date)
    (t : Time) :
    headIn? (front ++ '(' :: (CompactDate.text d t ++ (sign.text.toList ++ rest))) =
      some (front ++ '(' :: (CompactDate.text d t ++ [])) := by
  obtain ⟨hplus, hsign⟩ := h
  cases sign with
  | plus => rw [headIn?, before?_message_of_not_infix hplus, before?_self]; rfl
  | minus =>
    obtain ⟨hminus, hbehind⟩ := hsign
    rw [headIn?, before?_message_of_not_infix hplus, before?_plus_minus,
      (before?_eq_none_iff Sign.plus.toList_text_ne_nil).2 hbehind,
      before?_message_of_not_infix hminus, before?_self]
    rfl

/-- Where its sign does not delimit it, a date seems to end before it begins, or later than it
does. -/
theorem headIn?_of_not_delimits {rest : List Char} (h : ¬ sign.Delimits front rest) (d : Date)
    (t : Time) :
    ∃ head, headIn? (front ++ '(' :: (CompactDate.text d t ++ (sign.text.toList ++ rest))) =
        some head ∧
      (head.length ≤ front.length ∨
        ∃ more ≠ [], head = front ++ '(' :: (CompactDate.text d t ++ more)) := by
  by_cases hplus : Sign.plus.text.toList <:+: front
  · obtain ⟨head, hhead, hlength⟩ := before?_message_of_infix hplus d t (sign.text.toList ++ rest)
    exact ⟨head, by rw [headIn?, hhead]; rfl, .inl hlength⟩
  · cases sign with
    | plus => exact absurd ⟨hplus, trivial⟩ h
    | minus =>
      have hlater := before?_message_of_not_infix hplus d t (Sign.minus.text.toList ++ rest)
      rw [before?_plus_minus] at hlater
      cases hbehind : before? Sign.plus.text.toList (' ' :: rest) with
      | some found => exact ⟨_, by rw [headIn?, hlater, hbehind]; rfl, .inr ⟨_, by simp, rfl⟩⟩
      | none =>
        rw [hbehind] at hlater
        have hrest := (before?_eq_none_iff Sign.plus.toList_text_ne_nil).1 hbehind
        have hminus : Sign.minus.text.toList <:+: front := by
          by_contra hminus
          exact h ⟨hplus, hminus, hrest⟩
        obtain ⟨head, hhead, hlength⟩ :=
          before?_message_of_infix hminus d t (Sign.minus.text.toList ++ rest)
        exact ⟨head, by rw [headIn?, hlater, hhead]; rfl, .inl hlength⟩

/-- The text of a date begins behind the parenthesis. -/
theorem dateInMessage?_append (hfront : '(' ∉ front) (rest : List Char) :
    dateInMessage? (front ++ '(' :: rest) =
      (headIn? (front ++ '(' :: rest)).bind fun head =>
        if front.length + 1 ≤ head.length then some (head.drop (front.length + 1)) else none := by
  have hstart : (front ++ '(' :: rest).takeWhile (· ≠ '(') = front := by
    rw [List.takeWhile_append_of_pos (by simpa using fun a ha => ne_of_mem_of_not_mem ha hfront)]
    simp
  have hcontains : (front ++ '(' :: rest).contains '(' = true := by simp
  simp only [dateInMessage?, hcontains, hstart, if_true, headIn?, Sign.text]
  split
  · next heq => rw [heq, Option.bind_some]
  · next heq => rw [heq, Option.bind_none]

theorem drop_front (front date : List Char) :
    (front ++ '(' :: date).drop (front.length + 1) = date := by simp

/-- The date in a message is read if its sign delimits it, and otherwise there is none. -/
theorem seconds?_of_message (h : CompactDate.Writable d t) (hfront : '(' ∉ front) (sign : Sign)
    (rest : List Char) :
    (dateInMessage? (front ++ '(' :: (CompactDate.text d t ++ (sign.text.toList ++ rest)))).bind
        CompactDate.seconds? =
      if sign.Delimits front rest then some (Calendar.seconds d t) else none := by
  rw [dateInMessage?_append hfront]
  by_cases hdelimits : sign.Delimits front rest
  · rw [headIn?_of_delimits hdelimits, Option.bind_some, if_pos (by simp), drop_front,
      Option.bind_some, CompactDate.seconds?_text_append h, if_pos rfl, if_pos hdelimits]
  · rw [if_neg hdelimits]
    obtain ⟨head, hhead, hearly | ⟨more, hmore, rfl⟩⟩ := headIn?_of_not_delimits hdelimits d t
    · rw [hhead, Option.bind_some, if_neg (by omega), Option.bind_none]
    · rw [hhead, Option.bind_some, if_pos (by simp), drop_front, Option.bind_some,
        CompactDate.seconds?_text_append h, if_neg hmore]

end

/-- A message as services write it: a date behind a parenthesis, before a sign and the rest. -/
def messageWith (front : String) (d : Date) (t : Time) (sign : Sign) (rest : String) : String :=
  front ++ "(" ++ String.ofList (CompactDate.text d t) ++ sign.text ++ rest

theorem toList_messageWith (front : String) (d : Date) (t : Time) (sign : Sign) (rest : String) :
    (messageWith front d t sign rest).toList =
      front.toList ++ '(' :: (CompactDate.text d t ++ (sign.text.toList ++ rest.toList)) := by
  simp [messageWith]

/-- Without a header field the offset is the one from the date in the message, if its sign
delimits it. Otherwise there is no offset: never is one taken from another date. -/
theorem offset_of_message {headers : Headers} (habsent : headers.get? "date" = none)
    {front : String} (hfront : '(' ∉ front.toList) {d : Date} {t : Time}
    (h : CompactDate.Writable d t) (sign : Sign) (rest : String) (now : Int) :
    compute? headers (messageWith front d t sign rest) now =
      if sign.Delimits front.toList rest.toList then
        some (clamp (roundMillis (millisOfNanos now - Calendar.seconds d t * 1000)))
      else none := by
  have hseconds := seconds?_of_message h hfront sign rest.toList
  simp only [compute?, serverMillis?, habsent, toList_messageWith, hseconds]
  split
  · rfl
  · rfl

/-- Half past three on the last day of a leap year; the local clock is two minutes ahead. -/
theorem offset_of_message_with_parentheses :
    '(' ∉ "expired: 20121231T031000Z is earlier ".toList ∧
      CompactDate.Writable ⟨2012, 12, 31⟩ ⟨3, 30, 0⟩ ∧
      compute? {} (messageWith "expired: 20121231T031000Z is earlier " ⟨2012, 12, 31⟩ ⟨3, 30, 0⟩
        .minus "15 min.) - see (limits)") 1356924720000000000 = some 120 := by
  have hfront : '(' ∉ "expired: 20121231T031000Z is earlier ".toList := by decide +kernel
  have h : CompactDate.Writable ⟨2012, 12, 31⟩ ⟨3, 30, 0⟩ :=
    ⟨by decide, by decide, by decide, by decide, by decide⟩
  refine ⟨hfront, h, ?_⟩
  rw [offset_of_message rfl hfront h, if_pos (by decide +kernel)]
  decide +kernel

/-- A sign of either kind before the parenthesis hides the date, and so does a plus sign anywhere
behind a minus sign. -/
theorem offset_missed_beside_signs :
    CompactDate.Writable ⟨2013, 4, 1⟩ ⟨4, 1, 13⟩ ∧
      roundMillis (millisOfNanos 1364788993000000000 -
        Calendar.seconds ⟨2013, 4, 1⟩ ⟨4, 1, 13⟩ * 1000) = 120 ∧
      compute? {} (messageWith "Signature expired - request time too skewed " ⟨2013, 4, 1⟩
        ⟨4, 1, 13⟩ .minus "15 min.)") 1364788993000000000 = none ∧
      compute? {} (messageWith "Signature expired " ⟨2013, 4, 1⟩ ⟨4, 1, 13⟩ .minus
        "15 min.), allowed skew is 5 + 10 min.") 1364788993000000000 = none := by
  refine ⟨⟨by decide, by decide, by decide, by decide, by decide⟩, by decide +kernel, ?_, ?_⟩
  · decide +kernel
  · decide +kernel

end ServiceCall.ClockOffset
