import HbarKit.Mnemonic.Radix
import Mathlib.Tactic

/-!
# Numbers in two bases

Long division divides the number that digits stand for, so the remainders that it leaves one after
the other are the digits of that number in the other base. A number that fits is read back from its
digits, and digits are read back from their number.
-/
namespace HbarKit.Radix

/-! ## Numbers of digits -/

theorem value_append_singleton (base : Nat) (ds : List Nat) (d : Nat) :
    value base (ds ++ [d]) = value base ds * base + d := by
  simp [value, List.foldl_append]

theorem value_cons (base d : Nat) (ds : List Nat) :
    value base (d :: ds) = d * base ^ ds.length + value base ds := by
  induction ds using List.reverseRecOn with
  | nil => simp [value]
  | append_singleton ds e ih =>
    rw [← List.cons_append, value_append_singleton, ih, value_append_singleton, List.length_append,
      List.length_singleton, pow_succ]
    ring

/-- Digits below the base stand for a number below the power that their count allows. -/
theorem value_lt {base : Nat} {ds : List Nat} (h : ∀ d ∈ ds, d < base) :
    value base ds < base ^ ds.length := by
  induction ds with
  | nil => simp [value]
  | cons d ds ih =>
    have hd : d + 1 ≤ base := h d List.mem_cons_self
    have htail := ih fun e he => h e (List.mem_cons_of_mem d he)
    rw [value_cons, List.length_cons, pow_succ, mul_comm (base ^ ds.length)]
    calc
      d * base ^ ds.length + value base ds < d * base ^ ds.length + base ^ ds.length := by omega
      _ = (d + 1) * base ^ ds.length := by ring
      _ ≤ base * base ^ ds.length := Nat.mul_le_mul_right _ hd

theorem lt_of_mem_digits {base : Nat} (hbase : 0 < base) {width n d : Nat}
    (h : d ∈ digits base width n) : d < base := by
  induction width generalizing n with
  | zero => cases h
  | succ width ih =>
    obtain h | h := List.mem_append.mp h
    · exact ih h
    · rw [List.mem_singleton.mp h]
      exact Nat.mod_lt n hbase

/-- The last digits of a number stand for its remainder. -/
theorem value_digits (base width n : Nat) :
    value base (digits base width n) = n % base ^ width := by
  induction width generalizing n with
  | zero => simp [digits, value, Nat.mod_one]
  | succ width ih =>
    rw [digits, value_append_singleton, ih, pow_succ, mul_comm (base ^ width), Nat.mod_mul]
    ring

/-- Numbers that fit are told apart by their digits. -/
theorem digits_inj {base width m n : Nat} (hm : m < base ^ width) (hn : n < base ^ width) :
    digits base width m = digits base width n ↔ m = n := by
  constructor
  · intro h
    have hvalue := congrArg (value base) h
    rwa [value_digits, value_digits, Nat.mod_eq_of_lt hm, Nat.mod_eq_of_lt hn] at hvalue
  · intro h
    rw [h]

/-- The digits of a number with other digits behind it. -/
theorem digits_append {base width d : Nat} (front n : Nat) (h : d < base ^ width) :
    digits base (front + width) (n * base ^ width + d) =
      digits base front n ++ digits base width d := by
  induction width generalizing d with
  | zero =>
    obtain rfl : d = 0 := by simpa using h
    simp [digits]
  | succ width ih =>
    have hbase : 0 < base := by
      by_contra hzero
      obtain rfl : base = 0 := by omega
      simp at h
    have hd : d / base < base ^ width := by
      rw [pow_succ] at h
      exact Nat.div_lt_of_lt_mul (by rwa [mul_comm])
    have hshift : n * base ^ (width + 1) = base * (n * base ^ width) := by ring
    have hdiv : (n * base ^ (width + 1) + d) / base = n * base ^ width + d / base := by
      rw [hshift, Nat.mul_add_div hbase]
    have hmod : (n * base ^ (width + 1) + d) % base = d % base := by
      rw [hshift, Nat.mul_add_mod]
    rw [← Nat.add_assoc, digits, digits, hdiv, hmod, ih hd, List.append_assoc]

/-- The leading digits are those of the number without its last ones. -/
theorem take_digits (base front back n : Nat) :
    (digits base (front + back) n).take front = digits base front (n / base ^ back) := by
  induction back generalizing n with
  | zero => simp
  | succ back ih =>
    rw [← Nat.add_assoc, digits, List.take_append_of_le_length (by simp), ih,
      Nat.div_div_eq_div_mul, pow_succ, mul_comm base]

/-- Digits below the base are those of their number. -/
theorem digits_value {base : Nat} {ds : List Nat} (h : ∀ d ∈ ds, d < base) :
    digits base ds.length (value base ds) = ds := by
  induction ds using List.reverseRecOn with
  | nil => rfl
  | append_singleton ds d ih =>
    have hd : d < base := h d (by simp)
    have hfront := ih fun e he => h e (List.mem_append_left _ he)
    rw [value_append_singleton, List.length_append, List.length_singleton, digits, mul_comm,
      Nat.mul_add_div (by omega), Nat.div_eq_of_lt hd, add_zero, hfront, Nat.mul_add_mod,
      Nat.mod_eq_of_lt hd]

/-- Every digit in a power of a base is some digits in the base. -/
theorem flatMap_digits {base width : Nat} {ds : List Nat} (h : ∀ d ∈ ds, d < base ^ width) :
    ds.flatMap (digits base width) =
      digits base (width * ds.length) (value (base ^ width) ds) := by
  induction ds using List.reverseRecOn with
  | nil => rfl
  | append_singleton ds d ih =>
    have hd : d < base ^ width := h d (by simp)
    have hfront := ih fun e he => h e (List.mem_append_left _ he)
    rw [List.flatMap_append, hfront, List.flatMap_singleton, value_append_singleton,
      List.length_append, List.length_singleton, Nat.mul_succ, digits_append _ _ hd]

/-! ## Long division -/

@[simp] theorem length_divide (base divisor carry : Nat) (ds : List Nat) :
    (divide base divisor carry ds).1.length = ds.length := by
  induction ds generalizing carry with
  | nil => rfl
  | cons d ds ih => simp [divide, ih]

/-- The quotient and the remainder of a number with a carry in front. -/
theorem value_divide (base divisor carry : Nat) (ds : List Nat) :
    value base (divide base divisor carry ds).1 * divisor + (divide base divisor carry ds).2 =
      carry * base ^ ds.length + value base ds := by
  induction ds generalizing carry with
  | nil => simp [divide, value]
  | cons d ds ih =>
    have hrest := ih ((carry * base + d) % divisor)
    have hdigit := Nat.div_add_mod (carry * base + d) divisor
    simp only [divide, value_cons, length_divide, List.length_cons, pow_succ]
    generalize (carry * base + d) / divisor = q, (carry * base + d) % divisor = r at hrest hdigit ⊢
    calc
      _ = divisor * q * base ^ ds.length +
          (value base (divide base divisor r ds).1 * divisor + (divide base divisor r ds).2) := by
        ring
      _ = (divisor * q + r) * base ^ ds.length + value base ds := by
        rw [hrest]
        ring
      _ = _ := by
        rw [hdigit]
        ring

theorem divide_lt {base divisor carry : Nat} (h : carry < divisor) (ds : List Nat) :
    (divide base divisor carry ds).2 < divisor := by
  induction ds generalizing carry with
  | nil => exact h
  | cons d ds ih => exact ih (Nat.mod_lt _ (by omega))

/-- Repeated division gives the digits of a number in the other base. -/
theorem convert_eq_digits {target : Nat} (htarget : 0 < target) (base width : Nat)
    (ds : List Nat) : convert base target width ds = digits target width (value base ds) := by
  induction width generalizing ds with
  | zero => rfl
  | succ width ih =>
    have hvalue := value_divide base target 0 ds
    have hlt : (divide base target 0 ds).2 < target := divide_lt htarget ds
    rw [zero_mul, zero_add] at hvalue
    rw [convert, digits, ih, ← hvalue, mul_comm, Nat.mul_add_div htarget, Nat.div_eq_of_lt hlt,
      add_zero, Nat.mul_add_mod, Nat.mod_eq_of_lt hlt]

theorem lt_of_mem_convert {base target width d : Nat} {ds : List Nat} (htarget : 0 < target)
    (h : d ∈ convert base target width ds) : d < target := by
  rw [convert_eq_digits htarget] at h
  exact lt_of_mem_digits htarget h

/-- Digits that fit into another base are read back from there. -/
theorem convert_convert {base target width : Nat} {ds : List Nat} (htarget : 0 < target)
    (h : ∀ d ∈ ds, d < base) (hfits : base ^ ds.length ≤ target ^ width) :
    convert target base ds.length (convert base target width ds) = ds := by
  cases ds with
  | nil => rfl
  | cons d ds =>
    have hbase : 0 < base := Nat.zero_lt_of_lt (h d List.mem_cons_self)
    have hvalue := lt_of_lt_of_le (value_lt h) hfits
    rw [convert_eq_digits hbase, convert_eq_digits htarget, value_digits, Nat.mod_eq_of_lt hvalue,
      digits_value h]

end HbarKit.Radix
