import HbarKit.Proofs.Entity.Text

/-!
# The grammar of identifiers

An identifier is written as three numerals with points between them and, if it carries a checksum,
a hyphen and a run of letters behind them. The reader takes exactly that and gives what is written
there; all other texts are refused as a whole.
-/
namespace HbarKit

/-- A numeral of an address: a run of ASCII digits, also with zeros in front, and the number that
they weigh. -/
structure Numeral (cs : List Char) (n : UInt64) : Prop where
  ne_nil : cs ≠ []
  digit : ∀ c ∈ cs, '0' ≤ c ∧ c ≤ '9'
  weight : Nat.ofDigits 10 (cs.reverse.map fun c => c.toNat - '0'.toNat) = n.toNat

/-- Three numerals with single points between them. -/
inductive Address.Spelled : List Char → Address → Prop
  | points {shard realm num : List Char} {a : Address} (hshard : Numeral shard a.shard)
      (hrealm : Numeral realm a.realm) (hnum : Numeral num a.num) :
      Spelled (shard ++ '.' :: (realm ++ '.' :: num)) a

/-- A written checksum: a run of lowercase ASCII letters. -/
structure Letters (cs : List Char) : Prop where
  ne_nil : cs ≠ []
  letter : ∀ c ∈ cs, 'a' ≤ c ∧ c ≤ 'z'

/-- A written address, alone or with a hyphen and a checksum behind it. -/
inductive EntityId.Spelled : List Char → EntityId → Prop
  | bare {address : List Char} {a : Address} (h : a.Spelled address) : Spelled address ⟨a, none⟩
  | marked {address suffix : List Char} {a : Address} (h : a.Spelled address)
      (hsuffix : Letters suffix) :
      Spelled (address ++ '-' :: suffix) ⟨a, some (String.ofList suffix)⟩

/-! ## Parts of an identifier -/

theorem Numeral.not_mem {cs : List Char} {n : UInt64} (h : Numeral cs n) {c : Char}
    (hd : Decimal.isDigit c = false) : c ∉ cs := by
  intro hc
  have hdigit := h.digit c hc
  simp [Decimal.isDigit, hdigit] at hd

theorem Address.Spelled.not_mem {cs : List Char} {a : Address} (h : a.Spelled cs) {c : Char}
    (hd : Decimal.isDigit c = false) (hp : c ≠ '.') : c ∉ cs := by
  obtain ⟨hshard, hrealm, hnum⟩ := h
  simp [hshard.not_mem hd, hrealm.not_mem hd, hnum.not_mem hd, hp]

namespace EntityId

theorem number?_eq_some_iff {cs : List Char} {n : UInt64} : number? cs = some n ↔ Numeral cs n := by
  have hdigit : ∀ c, Decimal.isDigit c = true ↔ '0' ≤ c ∧ c ≤ '9' := by
    simp [Decimal.isDigit]
  constructor
  · intro h
    obtain ⟨m, hm, h⟩ := Option.bind_eq_some_iff.mp h
    obtain ⟨hne, hd, hvalue⟩ := Decimal.natural?_eq_some_iff.mp hm
    split at h
    · rename_i hlt
      cases h
      have hword : (UInt64.ofNat m).toNat = m := UInt64.toNat_ofNat_of_lt hlt
      refine ⟨hne, fun c hc => (hdigit c).mp (hd c hc), ?_⟩
      rw [hword, ← hvalue]
      exact (Decimal.value_eq_ofDigits cs).symm
    · cases h
  · intro h
    have hnat : Decimal.natural? cs = some n.toNat := by
      apply Decimal.natural?_eq_some_iff.mpr
      refine ⟨h.ne_nil, fun c hc => (hdigit c).mpr (h.digit c hc), ?_⟩
      rw [← h.weight]
      exact Decimal.value_eq_ofDigits cs
    have hlt : n.toNat < UInt64.size := n.toNat_lt
    simp [number?, hnat, hlt]

theorem address?_eq_some_iff {cs : List Char} {a : Address} :
    address? cs = some a ↔ a.Spelled cs := by
  constructor
  · intro h
    have hjoin := Text.join_pieces '.' cs
    unfold address? at h
    split at h
    · rename_i shard realm num hpieces
      obtain ⟨s, hs, h⟩ := Option.bind_eq_some_iff.mp h
      obtain ⟨r, hr, h⟩ := Option.bind_eq_some_iff.mp h
      obtain ⟨n, hn, h⟩ := Option.bind_eq_some_iff.mp h
      cases h
      rw [hpieces] at hjoin
      rw [← hjoin]
      simp only [Text.join, List.append_assoc, List.singleton_append]
      exact .points (number?_eq_some_iff.mp hs) (number?_eq_some_iff.mp hr)
        (number?_eq_some_iff.mp hn)
    · cases h
  · rintro ⟨hshard, hrealm, hnum⟩
    have hpoint : Decimal.isDigit '.' = false := by decide
    rw [address?, Text.pieces_append (hshard.not_mem hpoint),
      Text.pieces_append (hrealm.not_mem hpoint), Text.pieces_of_not_mem (hnum.not_mem hpoint)]
    simp [number?_eq_some_iff.mpr hshard, number?_eq_some_iff.mpr hrealm,
      number?_eq_some_iff.mpr hnum]

theorem isSuffix_iff {cs : List Char} : isSuffix cs = true ↔ Letters cs := by
  simp only [isSuffix, Bool.and_eq_true, Bool.not_eq_true', List.isEmpty_eq_false_iff,
    List.all_eq_true, decide_eq_true_iff]
  exact ⟨fun h => ⟨h.1, h.2⟩, fun h => ⟨h.ne_nil, h.letter⟩⟩

/-! ## Identifiers -/

theorem ofChars?_eq_some_iff {cs : List Char} {id : EntityId} :
    ofChars? cs = some id ↔ Spelled cs id := by
  constructor
  · intro h
    unfold ofChars? at h
    split at h
    · rename_i address suffix hcut
      obtain ⟨rfl, -⟩ := Text.cut_eq_some_iff.mp hcut
      split at h
      · rename_i hsuffix
        obtain ⟨a, ha, h⟩ := Option.bind_eq_some_iff.mp h
        cases h
        exact .marked (address?_eq_some_iff.mp ha) (isSuffix_iff.mp hsuffix)
      · cases h
    · obtain ⟨a, ha, h⟩ := Option.bind_eq_some_iff.mp h
      cases h
      exact .bare (address?_eq_some_iff.mp ha)
  · intro h
    -- No hyphen stands in an address, so the first one is where the checksum begins.
    have hhyphen : Decimal.isDigit '-' = false := by decide
    cases h with
    | bare h =>
      have hcut := Text.cut_eq_none (h.not_mem hhyphen (by decide))
      simp [ofChars?, hcut, address?_eq_some_iff.mpr h]
    | marked h hsuffix =>
      have hcut := Text.cut_append (h.not_mem hhyphen (by decide))
      simp [ofChars?, hcut, address?_eq_some_iff.mpr h, isSuffix_iff.mpr hsuffix]

theorem parse_eq_ok_iff {s : String} {id : EntityId} :
    parse s = .ok id ↔ Spelled s.toList id := by
  rw [← ofChars?_eq_some_iff, parse]
  cases ofChars? s.toList with
  | none => simp
  | some found => simp

/-- A text that spells no identifier is refused as a whole. -/
theorem parse_eq_malformed {s : String} (h : ∀ id, ¬ Spelled s.toList id) :
    parse s = .error (.malformed s) := by
  have hnone : ofChars? s.toList = none := by
    apply Option.eq_none_iff_forall_ne_some.mpr
    intro id hid
    exact h id (ofChars?_eq_some_iff.mp hid)
  rw [parse, hnone]

theorem spelled_chars (a : Address) : a.Spelled a.chars :=
  address?_eq_some_iff.mp (address?_chars a)

/-- What is between the quotes of an identifier with a checksum is read as the identifier. -/
theorem parse_unquoted {id : EntityId} {suffix : List Char}
    (hchecksum : id.checksum = some (String.ofList suffix)) (hsuffix : Letters suffix) :
    ∃ inner, id.debugText = "\"" ++ inner ++ "\"" ∧ parse inner = .ok id := by
  obtain ⟨a, checksum⟩ := id
  obtain rfl : checksum = some (String.ofList suffix) := hchecksum
  refine ⟨String.ofList (a.chars ++ '-' :: suffix), ?_, ?_⟩
  · simp [debugText, text, String.ofList_append, String.append_assoc, String.ofList_cons]
  · apply parse_eq_ok_iff.mpr
    rw [String.toList_ofList]
    exact .marked (spelled_chars a) hsuffix

/-- An identifier is read from a text if and only if the text spells it, and any text that spells
none is refused as it is. What is displayed is read without the checksum, and what is shown to
people, without its quotes, with it. -/
theorem parse_follows_grammar :
    (∀ s id, parse s = .ok id ↔ Spelled s.toList id) ∧
      (∀ s, (∀ id, ¬ Spelled s.toList id) → parse s = .error (.malformed s)) ∧
      (∀ id : EntityId, parse id.text = .ok ⟨id.address, none⟩) ∧
      ∀ (id : EntityId) (suffix : List Char), id.checksum = some (String.ofList suffix) →
        Letters suffix → ∃ inner, id.debugText = "\"" ++ inner ++ "\"" ∧ parse inner = .ok id := by
  refine ⟨fun s id => parse_eq_ok_iff, fun s => parse_eq_malformed, parse_text, ?_⟩
  intro id suffix hchecksum hsuffix
  exact parse_unquoted hchecksum hsuffix

end EntityId

end HbarKit
