import HbarKit.Proofs.Entity.Checksum
import HbarKit.Proofs.Entity.Text

/-!
# Slips in writing an identifier

Whoever writes an address with one wrong character, one too many or too few, or two neighbours in
the wrong order, and writes an address again, gets an address with another checksum: the count of
characters tells insertions and deletions, and the sums of the digits at even and at odd places tell
the rest.
-/
namespace HbarKit

/-- Two texts that differ by one slip. -/
inductive Text.Slip : List Char → List Char → Prop
  | substitute (front back : List Char) {c d : Char} (hne : c ≠ d) :
      Slip (front ++ c :: back) (front ++ d :: back)
  | insert (front back : List Char) (c : Char) : Slip (front ++ back) (front ++ c :: back)
  | delete (front back : List Char) (c : Char) : Slip (front ++ c :: back) (front ++ back)
  | swap (front back : List Char) {c d : Char} (hne : c ≠ d) :
      Slip (front ++ c :: d :: back) (front ++ d :: c :: back)

/-! ## Digits of an address -/

/-- An address is written in digits and points. -/
theorem Address.eq_point_of_mem_chars {a : Address} {c : Char} (h : c ∈ a.chars)
    (hd : Decimal.isDigit c = false) : c = '.' := by
  by_contra hp
  exact Address.not_mem_chars hd hp a h

namespace Checksum

theorem digitValue_of_isDigit {c : Char} (h : Decimal.isDigit c = true) :
    digitValue c = c.toNat - 48 ∧ digitValue c < 10 := by
  have hc := Decimal.toNat_of_isDigit h
  have hp : c ≠ '.' := by
    rintro rfl
    revert h
    decide
  rw [digitValue, if_neg hp]
  omega

theorem digitValue_lt {a : Address} {c : Char} (h : c ∈ a.chars) : digitValue c < 11 := by
  cases hd : Decimal.isDigit c with
  | true =>
    have := (digitValue_of_isDigit hd).2
    omega
  | false =>
    rw [Address.eq_point_of_mem_chars h hd]
    decide

/-- The digits of addresses tell their characters apart. -/
theorem eq_of_digitValue_eq {a b : Address} {c d : Char} (hc : c ∈ a.chars) (hd : d ∈ b.chars)
    (h : digitValue c = digitValue d) : c = d := by
  have hpoint : digitValue '.' = 10 := rfl
  cases hcd : Decimal.isDigit c with
  | true =>
    have hcv := digitValue_of_isDigit hcd
    cases hdd : Decimal.isDigit d with
    | true =>
      have hdv := digitValue_of_isDigit hdd
      have hcn := Decimal.toNat_of_isDigit hcd
      have hdn := Decimal.toNat_of_isDigit hdd
      exact Char.toNat_inj.mp (by omega)
    | false =>
      rw [Address.eq_point_of_mem_chars hd hdd, hpoint] at h
      omega
  | false =>
    obtain rfl := Address.eq_point_of_mem_chars hc hcd
    cases hdd : Decimal.isDigit d with
    | true =>
      have hdv := digitValue_of_isDigit hdd
      omega
    | false => exact (Address.eq_point_of_mem_chars hd hdd).symm

/-! ## Sums -/

/-- A digit in front changes places but not what differs. -/
theorem sumsAgree_cons (d : Nat) (ds es : List Nat) :
    SumsAgree (d :: ds) (d :: es) ↔ SumsAgree ds es := by
  simp only [SumsAgree, evenSum_cons, oddSum_cons]
  constructor
  · rintro ⟨hodd, heven⟩
    exact ⟨heven, Nat.ModEq.add_left_cancel' d hodd⟩
  · rintro ⟨heven, hodd⟩
    exact ⟨hodd.add_left d, heven⟩

theorem sumsAgree_append (front ds es : List Nat) :
    SumsAgree (front ++ ds) (front ++ es) ↔ SumsAgree ds es := by
  induction front with
  | nil => rfl
  | cons d front ih => rw [List.cons_append, List.cons_append, sumsAgree_cons, ih]

/-- Digits stay below 11, so one that is replaced changes the sum of its places. -/
theorem eq_of_sumsAgree_cons {d e : Nat} (hd : d < 11) (he : e < 11) {ds : List Nat}
    (h : SumsAgree (d :: ds) (e :: ds)) : d = e := by
  have heven := h.1
  rw [evenSum_cons, evenSum_cons] at heven
  exact Nat.ModEq.eq_of_lt_of_lt (Nat.ModEq.add_right_cancel' _ heven) hd he

/-- Neighbours stand at places of both kinds, so a swap changes both sums. -/
theorem eq_of_sumsAgree_swap {d e : Nat} (hd : d < 11) (he : e < 11) {ds : List Nat}
    (h : SumsAgree (d :: e :: ds) (e :: d :: ds)) : d = e := by
  have heven := h.1
  rw [evenSum_cons, evenSum_cons, oddSum_cons, oddSum_cons] at heven
  exact Nat.ModEq.eq_of_lt_of_lt (Nat.ModEq.add_right_cancel' _ heven) hd he

/-! ## Slips -/

/-- The digits of two addresses that differ by a slip differ in their count modulo 5 or in a sum. -/
theorem not_agree_of_slip {a b : Address} {cs ds : List Char} (h : Text.Slip cs ds)
    (hcs : cs = a.chars) (hds : ds = b.chars) (hlength : cs.length % 5 = ds.length % 5) :
    ¬ SumsAgree (cs.map digitValue) (ds.map digitValue) := by
  intro hsums
  cases h with
  | substitute front back hne =>
    have hc : _ ∈ a.chars := hcs ▸ List.mem_append_right front List.mem_cons_self
    have hd : _ ∈ b.chars := hds ▸ List.mem_append_right front List.mem_cons_self
    rw [List.map_append, List.map_append, sumsAgree_append] at hsums
    exact hne (eq_of_digitValue_eq hc hd
      (eq_of_sumsAgree_cons (digitValue_lt hc) (digitValue_lt hd) hsums))
  | insert front back c =>
    simp only [List.length_append, List.length_cons] at hlength
    omega
  | delete front back c =>
    simp only [List.length_append, List.length_cons] at hlength
    omega
  | swap front back hne =>
    have hc : _ ∈ a.chars := hcs ▸ List.mem_append_right front List.mem_cons_self
    have hd : _ ∈ b.chars := hds ▸ List.mem_append_right front List.mem_cons_self
    rw [List.map_append, List.map_append, sumsAgree_append] at hsums
    exact hne (eq_of_digitValue_eq hc hd
      (eq_of_sumsAgree_swap (digitValue_lt hc) (digitValue_lt hd) hsums))

end Checksum

namespace EntityId

/-- Identifiers whose addresses differ by a slip have different checksums on every ledger. -/
theorem checksumOn_ne_of_slip (l : Ledger) {a b : EntityId}
    (h : Text.Slip a.text.toList b.text.toList) : a.checksumOn l ≠ b.checksumOn l := by
  intro heq
  have hcode := (Checksum.compute_eq_iff l _ _ _ _ _ _).mp heq
  obtain ⟨hlength, hsums, _⟩ := (Checksum.code_eq_iff l _ _).mp hcode
  rw [List.length_map, List.length_map] at hlength
  rw [text, text, String.toList_ofList, String.toList_ofList] at h
  exact Checksum.not_agree_of_slip h rfl rfl hlength hsums

theorem checksumOn_ne_of_swapped_digits :
    Text.Slip (ofNum 123).text.toList (ofNum 132).text.toList ∧
      (ofNum 123).checksumOn .mainnet ≠ (ofNum 132).checksumOn .mainnet := by
  have hfirst : (ofNum 123).address.chars = ['0', '.', '0', '.', '1'] ++ '2' :: '3' :: [] := by
    decide +kernel
  have hsecond : (ofNum 132).address.chars = ['0', '.', '0', '.', '1'] ++ '3' :: '2' :: [] := by
    decide +kernel
  have hslip : Text.Slip (ofNum 123).text.toList (ofNum 132).text.toList := by
    rw [text, text, String.toList_ofList, String.toList_ofList, hfirst, hsecond]
    exact .swap _ _ (by decide)
  exact ⟨hslip, checksumOn_ne_of_slip .mainnet hslip⟩

end EntityId

end HbarKit
