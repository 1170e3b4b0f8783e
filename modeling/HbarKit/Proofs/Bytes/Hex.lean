import HbarKit.Bytes.Hex
import HbarKit.Text.Blank
import Mathlib.Tactic

/-!
# Reading hexadecimal text back

Bytes are read back from their digits in either case, and there are no blanks among digits.
-/
namespace HbarKit.Hex

/-- A character that is a digit as it is written, or the same letter in upper case. -/
def IsDigit (c d : Char) : Prop := c = d ∨ c = d.toUpper

/-- The digits of some bytes, each of them in either case. -/
def Spelled (cs : List Char) (b : Bytes) : Prop := List.Forall₂ IsDigit cs (encodeChars b)

theorem spelled_encodeChars (b : Bytes) : Spelled (encodeChars b) b :=
  List.forall₂_same.mpr fun _ _ => .inl rfl

theorem digitValue?_of_isDigit {c : Char} {n : Nat} (hn : n < 16) (h : IsDigit c (digit n)) :
    digitValue? c = some n := by
  obtain rfl | rfl := h <;> interval_cases n <;> rfl

theorem isBlank_of_isDigit {c : Char} {n : Nat} (hn : n < 16) (h : IsDigit c (digit n)) :
    Text.isBlank c = false := by
  obtain rfl | rfl := h <;> interval_cases n <;> rfl

theorem ne_x_of_isDigit {c : Char} {n : Nat} (hn : n < 16) (h : IsDigit c (digit n)) :
    c ≠ 'x' := by
  obtain rfl | rfl := h <;> interval_cases n <;> decide

/-- Every byte is written as a digit for its higher half and one for its lower half. -/
theorem spelled_cons_iff {cs : List Char} {x : UInt8} {b : Bytes} :
    Spelled cs (x :: b) ↔ ∃ high low rest, cs = high :: low :: rest ∧
      IsDigit high (digit (x.toNat / 16)) ∧ IsDigit low (digit (x.toNat % 16)) ∧
        Spelled rest b := by
  constructor
  · intro h
    rw [Spelled, encodeChars] at h
    cases h with
    | @cons high _ cs _ hhigh h =>
      cases h with
      | @cons low _ rest _ hlow h => exact ⟨high, low, rest, rfl, hhigh, hlow, h⟩
  · rintro ⟨high, low, rest, rfl, hhigh, hlow, h⟩
    exact .cons hhigh (.cons hlow h)

theorem decodeChars?_of_spelled {cs : List Char} {b : Bytes} (h : Spelled cs b) :
    decodeChars? cs = some b := by
  induction b generalizing cs with
  | nil =>
    cases h
    rfl
  | cons x b ih =>
    obtain ⟨high, low, rest, rfl, hhigh, hlow, h⟩ := spelled_cons_iff.mp h
    have hx : x.toNat < 256 := x.toNat_lt
    have hbyte : UInt8.ofNat (x.toNat / 16 * 16 + x.toNat % 16) = x := by
      rw [Nat.div_add_mod' x.toNat 16, UInt8.ofNat_toNat]
    rw [decodeChars?, digitValue?_of_isDigit (by omega) hhigh,
      digitValue?_of_isDigit (by omega) hlow, ih h]
    exact congrArg (fun y => some (y :: b)) hbyte

theorem isBlank_of_spelled {cs : List Char} {b : Bytes} (h : Spelled cs b) :
    ∀ c ∈ cs, Text.isBlank c = false := by
  induction b generalizing cs with
  | nil =>
    cases h
    simp
  | cons x b ih =>
    obtain ⟨high, low, rest, rfl, hhigh, hlow, h⟩ := spelled_cons_iff.mp h
    have hx : x.toNat < 256 := x.toNat_lt
    refine List.forall_mem_cons.mpr ⟨isBlank_of_isDigit (by omega) hhigh, ?_⟩
    exact List.forall_mem_cons.mpr ⟨isBlank_of_isDigit (by omega) hlow, ih h⟩

theorem length_encode (b : Bytes) : (encode b).toList.length = 2 * b.length := by
  rw [encode, String.toList_ofList]
  induction b with
  | nil => rfl
  | cons x b ih =>
    simp only [encodeChars, List.length_cons, ih]
    omega

theorem digitValue?_digit {n : Nat} (h : n < 16) : digitValue? (digit n) = some n :=
  digitValue?_of_isDigit h (.inl rfl)

@[simp] theorem decode?_encode (b : Bytes) : decode? (encode b) = some b := by
  rw [decode?, encode, String.toList_ofList, decodeChars?_of_spelled (spelled_encodeChars b)]

end HbarKit.Hex
