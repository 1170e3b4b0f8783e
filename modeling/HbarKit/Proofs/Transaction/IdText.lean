import HbarKit.Transaction.Id
import HbarKit.Proofs.Entity.Text
import HbarKit.Proofs.Except

/-!
# Reading names of transactions back

The separators of a written name do not occur in the parts that they are looked for in, so its parts
are found again, and the written form tells transactions apart. A name with a regular instant is
read back, with an account that carries no checksum. The instant of another one is written as well,
but no text is read as that instant.
-/
namespace HbarKit

namespace Instant

theorem of?_eq (t : Instant) : of? t.seconds t.nanos = if t.Regular then some t else none := by
  have hregular : ((-8334601228800 ≤ t.seconds ∧ t.seconds ≤ 8210266876799) ∧
      (t.nanos < 1000000000 ∨ t.nanos < 2000000000 ∧ t.seconds % 60 = 59)) ↔ t.Regular := by
    simp [t.seconds_le, t.nanos_lt, Regular]
  simp only [of?, hregular]
  rfl

theorem regular_of_of? {seconds : Int} {nanos : Nat} {t : Instant}
    (h : of? seconds nanos = some t) : t.Regular := by
  unfold of? at h
  split at h
  · rename_i hrange
    cases h
    exact hrange.2.imp_right And.right
  · cases h

end Instant

namespace TransactionId

/-- The name with an account that carries no checksum. -/
def bare (id : TransactionId) : TransactionId := { id with account := id.account.bare }

/-- What is neither a digit nor one of the two marks of a written instant does not occur in it. -/
theorem not_mem_instantChars {c : Char} (hd : Decimal.isDigit c = false) (hm : c ≠ '-')
    (hp : c ≠ '.') (t : Instant) : c ∉ instantChars t := by
  simp [instantChars, Decimal.not_mem_intDigits hd hm, Decimal.not_mem_padded hd, hp]

theorem numbers?_instantChars (t : Instant) :
    numbers? (instantChars t) = some (t.seconds, t.nanos) := by
  let width := max 9 (Decimal.digits t.nanos).length
  have hcut : Text.cut '.' (instantChars t) =
      some (Decimal.intDigits t.seconds, Decimal.padded width t.nanos) :=
    Text.cut_append (Decimal.not_mem_intDigits (by decide) (by decide) _) _
  have hrange := t.seconds_le
  have hseconds : Decimal.signed? Int64.minValue.toInt Int64.maxValue.toInt
      (Decimal.intDigits t.seconds) = some t.seconds := by
    apply Decimal.signed?_intDigits
    · exact le_trans (by decide) hrange.1
    · exact le_trans hrange.2 (by decide)
  have hwidth : t.nanos < 10 ^ width :=
    lt_of_lt_of_le (Decimal.lt_pow_length_digits t.nanos)
      (Nat.pow_le_pow_right (by decide) (le_max_right _ _))
  have hnanos : Decimal.unsigned? (UInt32.size - 1) (Decimal.padded width t.nanos) =
      some t.nanos := by
    apply Decimal.unsigned?_padded (by simp [width]) hwidth
    have := t.nanos_lt
    simp only [UInt32.size]
    omega
  simp only [numbers?, hcut, hseconds, hnanos, Option.bind_eq_bind, Option.bind_some,
    Option.pure_def]

theorem instantChars_injective : Function.Injective instantChars := by
  intro t u h
  have hnumbers := congrArg numbers? h
  rw [numbers?_instantChars, numbers?_instantChars, Option.some.injEq, Prod.mk.injEq] at hnumbers
  obtain ⟨seconds, nanos, _, _⟩ := t
  obtain ⟨seconds', nanos', _, _⟩ := u
  obtain ⟨rfl, rfl⟩ : seconds = seconds' ∧ nanos = nanos' := hnumbers
  rfl

theorem instant?_instantChars (t : Instant) :
    instant? (instantChars t) = if t.Regular then some t else none := by
  simp only [instant?, numbers?_instantChars, Option.bind_eq_bind, Option.bind_some, Instant.of?_eq]

theorem cutNonce?_append {front : List Char} (h : '/' ∉ front) (nonce : Option Int32) :
    cutNonce? (front ++ nonceChars nonce) = some (front, nonce) := by
  cases nonce with
  | none => simp [cutNonce?, nonceChars, Text.cutLast_eq_none h]
  | some n =>
    have hn : '/' ∉ Decimal.intDigits n.toInt :=
      Decimal.not_mem_intDigits (by decide) (by decide) _
    have hread := Decimal.signed?_intDigits n.minValue_le_toInt n.toInt_le
    rw [nonceChars, cutNonce?, Text.cutLast_append hn]
    simp only [hread, Option.map_some, Int32.ofInt_toInt]

theorem cutMark_append {front : List Char} (h : '?' ∉ front) (scheduled : Bool) :
    cutMark (front ++ if scheduled then scheduledMark else []) = (front, scheduled) := by
  cases scheduled with
  | true => simp [cutMark, Text.dropEnding?_append]
  | false =>
    have hnone : Text.dropEnding? scheduledMark front = none :=
      Text.dropEnding?_eq_none (by decide) h
    simp [cutMark, hnone]

/-- What is behind the account in a written name. -/
def detailChars (id : TransactionId) : List Char :=
  instantChars id.validStart ++ (if id.scheduled then scheduledMark else []) ++ nonceChars id.nonce

/-- The parts behind the account are found again. -/
theorem cut_detailChars (id : TransactionId) : ∃ front, cutNonce? id.detailChars =
    some (front, id.nonce) ∧ cutMark front = (instantChars id.validStart, id.scheduled) := by
  have hquery : '?' ∉ instantChars id.validStart :=
    not_mem_instantChars (by decide) (by decide) (by decide) _
  have hslash : '/' ∉ instantChars id.validStart ++ if id.scheduled then scheduledMark else [] := by
    have hmark : '/' ∉ scheduledMark := by decide
    cases id.scheduled <;>
      simp [hmark, not_mem_instantChars (c := '/') (by decide) (by decide) (by decide)]
  exact ⟨_, cutNonce?_append hslash _, cutMark_append hquery _⟩

theorem cut_chars (id : TransactionId) :
    Text.cut '@' id.chars = some (id.account.address.chars, id.detailChars) := by
  have hat : '@' ∉ id.account.address.chars := Address.not_mem_chars (by decide) (by decide) _
  exact Text.cut_append hat _

/-- A written name with a regular instant is read as the name with an account that carries no
checksum, and any other one is malformed. -/
theorem parse_text (id : TransactionId) : parse id.text =
    if id.validStart.Regular then .ok id.bare else .error (.malformed id.text) := by
  have haccount : EntityId.parse (String.ofList id.account.address.chars) = .ok id.account.bare :=
    EntityId.parse_text id.account
  obtain ⟨front, hnonce, hmark⟩ := cut_detailChars id
  have hdetails : details? id.detailChars = if id.validStart.Regular then
      some (id.validStart, id.nonce, id.scheduled) else none := by
    simp only [details?, hnonce, hmark, instant?_instantChars, Option.bind_eq_bind,
      Option.bind_some, Option.pure_def]
    split <;> rfl
  have htext : id.text.toList = id.chars := String.toList_ofList
  by_cases h : id.validStart.Regular
  · simp only [parse, htext, cut_chars, haccount, hdetails, if_pos h]
    rfl
  · simp only [parse, htext, cut_chars, haccount, hdetails, if_neg h]
    rfl

theorem parse_text_of_regular {id : TransactionId} (h : id.validStart.Regular) :
    parse id.text = .ok id.bare := by
  rw [parse_text, if_pos h]

/-- What is read has a regular instant. -/
theorem regular_of_parse {s : String} {id : TransactionId} (h : parse s = .ok id) :
    id.validStart.Regular := by
  unfold parse at h
  split at h
  · cases h
  · obtain ⟨account, _, h⟩ := bind_eq_ok.mp h
    split at h
    · rename_i hdetails
      cases h
      obtain ⟨_, _, hdetails⟩ := Option.bind_eq_some_iff.mp hdetails
      obtain ⟨t, ht, hdetails⟩ := Option.bind_eq_some_iff.mp hdetails
      cases hdetails
      obtain ⟨_, _, ht⟩ := Option.bind_eq_some_iff.mp ht
      exact Instant.regular_of_of? ht
    · cases h

/-! ## Names of one transaction -/

/-- Two names are of one transaction if and only if nothing but a checksum tells them apart. -/
theorem same_iff {a b : TransactionId} : a.same b = true ↔ a.bare = b.bare := by
  obtain ⟨account, validStart, nonce, scheduled⟩ := a
  obtain ⟨account', validStart', nonce', scheduled'⟩ := b
  simp [same, EntityId.same, bare, EntityId.bare, and_assoc]

theorem same_bare (id : TransactionId) : id.bare.same id = true :=
  same_iff.mpr rfl

/-- The written form tells transactions apart. -/
theorem text_eq_iff {a b : TransactionId} : a.text = b.text ↔ a.same b = true := by
  constructor
  · intro h
    have hchars : a.chars = b.chars := String.ofList_injective h
    have hcut := congrArg (Text.cut '@') hchars
    rw [cut_chars, cut_chars, Option.some.injEq, Prod.mk.injEq] at hcut
    obtain ⟨hfront, hbehind⟩ := hcut
    have haccount : a.account.bare = b.account.bare := by
      have hread := EntityId.parse_text a.account
      have htext : a.account.text = b.account.text := congrArg String.ofList hfront
      rw [htext, EntityId.parse_text] at hread
      exact (Except.ok.inj hread).symm
    obtain ⟨front, hnonce, hmark⟩ := cut_detailChars a
    obtain ⟨front', hnonce', hmark'⟩ := cut_detailChars b
    rw [hbehind, hnonce', Option.some.injEq, Prod.mk.injEq] at hnonce
    obtain ⟨rfl, hnonces⟩ := hnonce
    rw [hmark', Prod.mk.injEq] at hmark
    obtain ⟨hinstant, hscheduled⟩ := hmark
    rw [same_iff, bare, bare, haccount, instantChars_injective hinstant, hnonces, hscheduled]
  · intro h
    have hbare : ∀ id : TransactionId, id.bare.text = id.text := fun _ => rfl
    rw [← hbare a, ← hbare b, same_iff.mp h]

/-- A name is written faithfully: if its instant is regular, what is written is read as a name of
the same transaction whose account carries no checksum, and otherwise it is malformed; no two
transactions are written alike; and the name that any text is read as is read again from its own
written form. -/
theorem text_is_faithful :
    (∀ id : TransactionId, id.validStart.Regular → ∃ read, parse id.text = .ok read ∧
      read.same id = true ∧ read.account.checksum = none) ∧
      (∀ id : TransactionId, ¬ id.validStart.Regular →
        parse id.text = .error (.malformed id.text)) ∧
      (∀ a b : TransactionId, a.text = b.text ↔ a.same b = true) ∧
      ∀ s id, parse s = .ok id → ∃ read, parse id.text = .ok read ∧ read.same id = true ∧
        (id.account.checksum = none → read = id) := by
  refine ⟨?_, ?_, fun _ _ => text_eq_iff, ?_⟩
  · intro id h
    exact ⟨id.bare, parse_text_of_regular h, id.same_bare, rfl⟩
  · intro id h
    rw [parse_text, if_neg h]
  · intro s id hread
    refine ⟨id.bare, parse_text_of_regular (regular_of_parse hread), id.same_bare, ?_⟩
    intro hnone
    obtain ⟨⟨address, checksum⟩, validStart, nonce, scheduled⟩ := id
    obtain rfl : checksum = none := hnone
    rfl

/-- A name whose instant runs over the first second of 1970 by half a second. -/
def overrunning : TransactionId :=
  ⟨⟨⟨0, 0, 5⟩, none⟩, ⟨0, 1500000000, by omega, by omega⟩, none, false⟩

example : overrunning.text = "0.0.5@0.1500000000" := by decide +kernel

end TransactionId

end HbarKit
