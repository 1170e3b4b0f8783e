import HbarKit.Text.Decimal
import Mathlib.Tactic

/-!
# Reading decimal numerals back

A run of digits has the value that its digits are weighed to, so every numeral that is written is
read as the number it was written for. Written numerals hold nothing but digits and, in front of a
negative number, a minus sign.
-/
namespace HbarKit.Decimal

theorem toNat_digit {n : Nat} (h : n < 10) : (digit n).toNat = 48 + n := by
  revert n; decide

theorem isDigit_digit {n : Nat} (h : n < 10) : isDigit (digit n) = true := by
  revert n; decide

theorem toNat_of_isDigit {c : Char} (h : isDigit c = true) : 48 ≤ c.toNat ∧ c.toNat ≤ 57 := by
  simpa [isDigit, Char.le_def, UInt32.le_iff_toNat_le] using h

theorem not_isDigit_plus : isDigit '+' = false := by decide

theorem not_isDigit_minus : isDigit '-' = false := by decide

theorem value_append_singleton (cs : List Char) (c : Char) :
    value (cs ++ [c]) = value cs * 10 + (c.toNat - 48) := by
  simp [value, List.foldl_append]

/-- The last digit of a run weighs one, and every other one ten times the next. -/
theorem value_eq_ofDigits (cs : List Char) :
    value cs = Nat.ofDigits 10 (cs.reverse.map fun c => c.toNat - 48) := by
  induction cs using List.reverseRecOn with
  | nil => rfl
  | append_singleton cs c ih =>
    rw [value_append_singleton, List.reverse_append, List.reverse_singleton, List.singleton_append,
      List.map_cons, Nat.ofDigits_cons, ← ih]
    omega

/-! ## Digits -/

theorem digits_ne_nil (n : Nat) : digits n ≠ [] := by
  rw [digits]
  split <;> simp

theorem all_isDigit_digits (n : Nat) : ∀ c ∈ digits n, isDigit c = true := by
  induction n using digits.induct with
  | case1 n h =>
    rw [digits, if_pos h]
    simpa using isDigit_digit h
  | case2 n h ih =>
    rw [digits, if_neg h]
    intro c hc
    rcases List.mem_append.mp hc with hc | hc
    · exact ih c hc
    · rw [List.mem_singleton.mp hc]
      exact isDigit_digit (Nat.mod_lt n (by decide))

/-- A number is the value of its digits. -/
@[simp] theorem value_digits (n : Nat) : value (digits n) = n := by
  induction n using digits.induct with
  | case1 n h =>
    rw [digits, if_pos h]
    simp [value, toNat_digit h]
  | case2 n h ih =>
    rw [digits, if_neg h, value_append_singleton, ih, toNat_digit (Nat.mod_lt n (by decide))]
    omega

/-- There is no zero in front of other digits. -/
theorem digits_ne_zero_cons (n : Nat) (c : Char) (cs : List Char) : digits n ≠ '0' :: c :: cs := by
  induction n using digits.induct generalizing c cs with
  | case1 n h =>
    rw [digits, if_pos h]
    simp
  | case2 n h ih =>
    rw [digits, if_neg h]
    intro hzero
    match hfront : digits (n / 10) with
    | [] => exact digits_ne_nil _ hfront
    | [d] =>
      have hd : d = '0' := by simp_all
      have hvalue := value_digits (n / 10)
      rw [hfront, hd] at hvalue
      have : value ['0'] = 0 := rfl
      omega
    | d :: e :: more =>
      have hd : d = '0' := by simp_all
      exact ih e more (by rw [hfront, hd])

/-- The count of digits bounds the number. -/
theorem lt_pow_length_digits (n : Nat) : n < 10 ^ (digits n).length := by
  induction n using digits.induct with
  | case1 n h =>
    rw [digits, if_pos h]
    simpa using h
  | case2 n h ih =>
    rw [digits, if_neg h, List.length_append, List.length_singleton, pow_succ]
    omega

/-- The number bounds the count of its digits. -/
theorem length_digits_le {n width : Nat} (h : n < 10 ^ (width + 1)) :
    (digits n).length ≤ width + 1 := by
  induction n using digits.induct generalizing width with
  | case1 n hn =>
    rw [digits, if_pos hn, List.length_singleton]
    omega
  | case2 n hn ih =>
    rw [digits, if_neg hn, List.length_append, List.length_singleton]
    cases width with
    | zero =>
      rw [zero_add, pow_one] at h
      omega
    | succ width =>
      rw [pow_succ] at h
      have hquotient := ih (show n / 10 < 10 ^ (width + 1) by omega)
      omega

/-! ## Numerals of fixed width -/

@[simp] theorem length_padded (width n : Nat) : (padded width n).length = width := by
  induction width generalizing n with
  | zero => rfl
  | succ width ih => simp [padded, ih]

theorem all_isDigit_padded (width n : Nat) : ∀ c ∈ padded width n, isDigit c = true := by
  induction width generalizing n with
  | zero => simp [padded]
  | succ width ih =>
    intro c hc
    rcases List.mem_append.mp hc with hc | hc
    · exact ih _ c hc
    · rw [List.mem_singleton.mp hc]
      exact isDigit_digit (Nat.mod_lt n (by decide))

/-- A numeral of fixed width keeps the number modulo the power that the width allows. -/
theorem value_padded (width n : Nat) : value (padded width n) = n % 10 ^ width := by
  induction width generalizing n with
  | zero => simp [padded, value, Nat.mod_one]
  | succ width ih =>
    rw [padded, value_append_singleton, ih, toNat_digit (Nat.mod_lt n (by decide))]
    rw [pow_succ, Nat.mul_comm (10 ^ width), Nat.mod_mul]
    omega

/-! ## Readers -/

theorem natural?_eq_some {cs : List Char} (hne : cs ≠ []) (hd : ∀ c ∈ cs, isDigit c = true) :
    natural? cs = some (value cs) := by
  have hall : cs.all isDigit = true := by simpa using hd
  simp [natural?, hne, hall]

theorem natural?_eq_some_iff {cs : List Char} {n : Nat} :
    natural? cs = some n ↔ cs ≠ [] ∧ (∀ c ∈ cs, isDigit c = true) ∧ value cs = n := by
  constructor
  · intro h
    unfold natural? at h
    split at h
    · rename_i hrun
      simp only [Bool.and_eq_true, Bool.not_eq_true', List.isEmpty_eq_false_iff,
        List.all_eq_true] at hrun
      exact ⟨hrun.1, hrun.2, Option.some.inj h⟩
    · cases h
  · rintro ⟨hne, hd, rfl⟩
    exact natural?_eq_some hne hd

@[simp] theorem natural?_digits (n : Nat) : natural? (digits n) = some n := by
  rw [natural?_eq_some (digits_ne_nil n) (all_isDigit_digits n), value_digits]

theorem natural?_padded {width n : Nat} (hw : 0 < width) (hn : n < 10 ^ width) :
    natural? (padded width n) = some n := by
  have hne : padded width n ≠ [] := by
    intro h
    have := congrArg List.length h
    simp at this
    omega
  rw [natural?_eq_some hne (all_isDigit_padded width n), value_padded, Nat.mod_eq_of_lt hn]

/-- A run of digits has no sign that a reader could take off. -/
theorem unsigned?_of_digits {cs : List Char} {n max : Nat} (hd : ∀ c ∈ cs, isDigit c = true)
    (hn : natural? cs = some n) (hmax : n ≤ max) : unsigned? max cs = some n := by
  unfold unsigned?
  split
  · rename_i rest
    have := hd '+' (by simp)
    simp [not_isDigit_plus] at this
  · simp [hn, hmax]

theorem unsigned?_padded {width n max : Nat} (hw : 0 < width) (hn : n < 10 ^ width)
    (hmax : n ≤ max) : unsigned? max (padded width n) = some n :=
  unsigned?_of_digits (all_isDigit_padded width n) (natural?_padded hw hn) hmax

/-- An integer in range is read back from its digits and sign. -/
theorem signed?_intDigits {n min max : Int} (hmin : min ≤ n) (hmax : n ≤ max) :
    signed? min max (intDigits n) = some n := by
  unfold intDigits
  split
  · rename_i hneg
    have he : -(n.natAbs : Int) = n := by omega
    simp only [signed?, natural?_digits, Option.bind_eq_bind, Option.bind_some, Option.pure_def,
      Option.map_some, he]
    simp [hmin, hmax]
  · rename_i hpos
    have he : (n.natAbs : Int) = n := by omega
    have hd := all_isDigit_digits n.natAbs
    unfold signed?
    split
    · rename_i rest h
      have := hd '-' (by simp [h])
      simp [not_isDigit_minus] at this
    · rename_i rest h
      have := hd '+' (by simp [h])
      simp [not_isDigit_plus] at this
    · simp [he, hmin, hmax]

/-! ## Characters of a numeral -/

theorem not_mem_digits {c : Char} (h : isDigit c = false) (n : Nat) : c ∉ digits n := by
  intro hc
  simp [all_isDigit_digits n c hc] at h

theorem not_mem_padded {c : Char} (h : isDigit c = false) (width n : Nat) :
    c ∉ padded width n := by
  intro hc
  simp [all_isDigit_padded width n c hc] at h

theorem not_mem_intDigits {c : Char} (h : isDigit c = false) (hm : c ≠ '-') (n : Int) :
    c ∉ intDigits n := by
  unfold intDigits
  split <;> simp [hm, not_mem_digits h]

end HbarKit.Decimal
