import HbarKit.Proofs.Entity.Words

/-!
# Identifiers are bound to a ledger

The salts of the ledgers differ modulo 26⁵, and nothing that follows loses the difference, so no
address has the same checksum on two ledgers. An identifier that is written with its checksum on one
ledger is read again, and validates on that ledger only.
-/
namespace HbarKit

namespace Checksum

theorem saltSum_injective : Function.Injective saltSum := by
  intro l m
  cases l <;> cases m <;> decide

/-- Digits have another code on every ledger. -/
theorem code_injective (ds : List Nat) : Function.Injective (code · ds) := by
  intro l m h
  simp only [code, Nat.add_comm _ (saltSum _)] at h
  exact saltSum_injective (eq_of_scrambled_eq (saltSum_lt l) (saltSum_lt m) h)

theorem length_letters (width n : Nat) : (letters width n).length = width := by
  induction width generalizing n with
  | zero => rfl
  | succ width ih => simp [letters, ih]

theorem isLetter_of_lt {n : Nat} (h : n < 26) :
    'a' ≤ Char.ofNat (97 + n) ∧ Char.ofNat (97 + n) ≤ 'z' := by
  revert n; decide

theorem isLetter_of_mem_letters {width n : Nat} {c : Char} (h : c ∈ letters width n) :
    'a' ≤ c ∧ c ≤ 'z' := by
  induction width generalizing n with
  | zero => cases h
  | succ width ih =>
    rcases List.mem_append.mp h with h | h
    · exact ih h
    · rw [List.mem_singleton.mp h]
      exact isLetter_of_lt (Nat.mod_lt n (by decide))

end Checksum

namespace EntityId

theorem checksumOn_injective (id : EntityId) : Function.Injective id.checksumOn := by
  intro l m h
  exact Checksum.code_injective _
    (Checksum.eq_of_letters_eq (Checksum.code_lt l _) (Checksum.code_lt m _)
      (String.ofList_injective h))

theorem length_checksumOn (id : EntityId) (l : Ledger) : (id.checksumOn l).length = 5 := by
  simp [checksumOn, Checksum.compute, Checksum.length_letters]

theorem isLetter_of_mem_checksumOn {id : EntityId} {l : Ledger} {c : Char}
    (h : c ∈ (id.checksumOn l).toList) : 'a' ≤ c ∧ c ≤ 'z' := by
  rw [checksumOn, Checksum.compute, String.toList_ofList] at h
  exact Checksum.isLetter_of_mem_letters h

theorem isSuffix_checksumOn (id : EntityId) (l : Ledger) :
    isSuffix (id.checksumOn l).toList = true := by
  have hne : (id.checksumOn l).toList ≠ [] := by
    intro h
    have hlength := id.length_checksumOn l
    rw [← String.length_toList, h] at hlength
    cases hlength
  simp only [isSuffix, Bool.and_eq_true, Bool.not_eq_true', List.isEmpty_eq_false_iff,
    List.all_eq_true, decide_eq_true_iff]
  exact ⟨hne, fun c hc => isLetter_of_mem_checksumOn hc⟩

/-- An identifier written with its checksum is read with that checksum. -/
theorem parse_textOn (id : EntityId) (l : Ledger) :
    parse (id.textOn l) = .ok ⟨id.address, some (id.checksumOn l)⟩ := by
  have hdash : '-' ∉ id.address.chars := Address.not_mem_chars (by decide) (by decide) _
  have hchars : (id.textOn l).toList = id.address.chars ++ '-' :: (id.checksumOn l).toList := by
    simp [textOn, text]
  simp [parse, hchars, ofChars?, Text.cut_append hdash, isSuffix_checksumOn]

/-- A checksum names one ledger: it is five lowercase letters that are different on every ledger and
that are computed without overflow. The identifier that is written with it is read again, validates
on its ledger, and is refused with the expected checksum on every other one. -/
theorem textOn_binds_ledger (id : EntityId) :
    Function.Injective id.checksumOn ∧
      (∀ l, (id.checksumOn l).length = 5 ∧ ∀ c ∈ (id.checksumOn l).toList, 'a' ≤ c ∧ c ≤ 'z') ∧
      (∀ l, ∃ read, parse (id.textOn l) = .ok read ∧ read.address = id.address ∧
        read.validate l = .ok () ∧
        ∀ other, other ≠ l → read.validate other =
          .error (.checksumMismatch (id.checksumOn l) (id.checksumOn other) other)) ∧
      ∀ l, Checksum.computeInWords? l id.address.shard id.address.realm id.address.num =
        some (id.checksumOn l) := by
  refine ⟨id.checksumOn_injective, ?_, ?_, ?_⟩
  · intro l
    exact ⟨id.length_checksumOn l, fun c hc => isLetter_of_mem_checksumOn hc⟩
  · intro l
    refine ⟨_, id.parse_textOn l, rfl, ?_, ?_⟩
    · exact if_pos rfl
    · intro other hne
      exact if_neg fun h => hne (id.checksumOn_injective h).symm
  · intro l
    exact Checksum.computeInWords?_eq l _ _ _

end EntityId

end HbarKit
