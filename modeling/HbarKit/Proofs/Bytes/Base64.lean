import HbarKit.Bytes.Base64
import HbarKit.Text.Blank
import Mathlib.Tactic

/-!
# Reading base64

What is written in base64 is read back, and it is written in letters that stand for their values and
in `=` alone.
-/
namespace HbarKit.Base64

/-- What is known of every letter. -/
theorem letter_spec {n : Nat} (h : n < 64) :
    value? (letter n) = some n ∧ letter n ≠ '=' ∧ letter n ≠ '-' ∧
      Text.isBlank (letter n) = false := by
  have hall : ∀ n < 64, value? (letter n) = some n ∧ letter n ≠ '=' ∧ letter n ≠ '-' ∧
      Text.isBlank (letter n) = false := by
    decide +kernel
  exact hall n h

theorem value?_letter {n : Nat} (h : n < 64) : value? (letter n) = some n := (letter_spec h).1

theorem letter_ne_pad {n : Nat} (h : n < 64) : letter n ≠ '=' := (letter_spec h).2.1

/-- A group that does not end with filling. -/
theorem decode?_group {z : Char} (hz : z ≠ '=') (w x y : Char) (rest : List Char) :
    decode? (w :: x :: y :: z :: rest) = (do
      let w ← value? w
      let x ← value? x
      let y ← value? y
      let z ← value? z
      let tail ← decode? rest
      return UInt8.ofNat (w * 4 + x / 16) :: UInt8.ofNat (x % 16 * 16 + y / 4) ::
        UInt8.ofNat (y % 4 * 64 + z) :: tail) := by
  rw [decode?]
  · rintro _ rfl _
    exact hz rfl
  · rintro rfl _
    exact hz rfl

/-! ## Bytes from the values of letters -/

theorem ofNat_first (a : UInt8) {n : Nat} (h : n < 16) :
    UInt8.ofNat (a.toNat / 4 * 4 + (a.toNat % 4 * 16 + n) / 16) = a := by
  have hvalue : a.toNat / 4 * 4 + (a.toNat % 4 * 16 + n) / 16 = a.toNat := by omega
  rw [hvalue, UInt8.ofNat_toNat]

theorem ofNat_second (b : UInt8) (m : Nat) {n : Nat} (h : n < 4) :
    UInt8.ofNat ((m * 16 + b.toNat / 16) % 16 * 16 + (b.toNat % 16 * 4 + n) / 4) = b := by
  have hb := b.toNat_lt
  have hvalue : (m * 16 + b.toNat / 16) % 16 * 16 + (b.toNat % 16 * 4 + n) / 4 = b.toNat := by omega
  rw [hvalue, UInt8.ofNat_toNat]

theorem ofNat_third (c : UInt8) (m : Nat) :
    UInt8.ofNat ((m * 4 + c.toNat / 64) % 4 * 64 + c.toNat % 64) = c := by
  have hc := c.toNat_lt
  have hvalue : (m * 4 + c.toNat / 64) % 4 * 64 + c.toNat % 64 = c.toNat := by omega
  rw [hvalue, UInt8.ofNat_toNat]

/-- What is written is read back. -/
theorem decode?_encode (b : Bytes) : decode? (encode b) = some b := by
  fun_induction encode b with
  | case1 => rfl
  | case2 a =>
    have ha := a.toNat_lt
    have hfirst := ofNat_first a (n := 0) (by decide)
    rw [decode?, value?_letter (by omega), value?_letter (by omega)]
    simpa using hfirst
  | case3 a b =>
    have ha := a.toNat_lt
    have hb := b.toNat_lt
    have hfirst := ofNat_first a (n := b.toNat / 16) (by omega)
    have hsecond := ofNat_second b (a.toNat % 4) (n := 0) (by decide)
    have hrest : b.toNat % 16 * 4 % 4 = 0 := by omega
    rw [decode?, value?_letter (by omega), value?_letter (by omega), value?_letter (by omega)]
    · simp only [Option.bind_eq_bind, Option.bind_some, if_pos hrest, hfirst]
      rw [Nat.add_zero] at hsecond
      rw [hsecond]
      rfl
    · exact letter_ne_pad (by omega)
  | case4 a b c rest ih =>
    have ha := a.toNat_lt
    have hb := b.toNat_lt
    have hc := c.toNat_lt
    have hfirst := ofNat_first a (n := b.toNat / 16) (by omega)
    have hsecond := ofNat_second b (a.toNat % 4) (n := c.toNat / 64) (by omega)
    have hthird := ofNat_third c (b.toNat % 16)
    rw [decode?_group (letter_ne_pad (by omega)), ih, value?_letter (by omega),
      value?_letter (by omega), value?_letter (by omega), value?_letter (by omega)]
    simp only [Option.bind_eq_bind, Option.bind_some, hfirst, hsecond, hthird]
    rfl

/-! ## What is written -/

/-- A character that base64 is written in. -/
structure IsData (c : Char) : Prop where
  ne_dash : c ≠ '-'
  not_blank : Text.isBlank c = false

theorem isData_letter {n : Nat} (h : n < 64) : IsData (letter n) :=
  ⟨(letter_spec h).2.2.1, (letter_spec h).2.2.2⟩

theorem isData_pad : IsData '=' := ⟨by decide, by decide⟩

/-- Data has no blanks and no dashes in it. -/
theorem isData_of_mem_encode {b : Bytes} {c : Char} (h : c ∈ encode b) : IsData c := by
  fun_induction encode b with
  | case1 => cases h
  | case2 a =>
    have ha := a.toNat_lt
    simp only [List.mem_cons, List.not_mem_nil, or_false] at h
    obtain rfl | rfl | rfl | rfl := h
    · exact isData_letter (by omega)
    · exact isData_letter (by omega)
    · exact isData_pad
    · exact isData_pad
  | case3 a b =>
    have ha := a.toNat_lt
    have hb := b.toNat_lt
    simp only [List.mem_cons, List.not_mem_nil, or_false] at h
    obtain rfl | rfl | rfl | rfl := h
    · exact isData_letter (by omega)
    · exact isData_letter (by omega)
    · exact isData_letter (by omega)
    · exact isData_pad
  | case4 a b c rest ih =>
    have ha := a.toNat_lt
    have hb := b.toNat_lt
    have hc := c.toNat_lt
    simp only [List.mem_cons] at h
    obtain rfl | rfl | rfl | rfl | h := h
    · exact isData_letter (by omega)
    · exact isData_letter (by omega)
    · exact isData_letter (by omega)
    · exact isData_letter (by omega)
    · exact ih h

end HbarKit.Base64
