import HbarKit.Proofs.Exact
import HbarKit.Proofs.Mnemonic.Radix

/-!
# Change of base in place

A machine keeps the digits of a number in words of 32 bits and divides it where it stands: digit by
digit the quotient takes the place of the number, and the remainder that is carried along is the
next digit of the result. Whatever has been done, the quotient so far, the carry, the digits that
are still ahead and those that came out stand for the number at the start together. The digits stay
below the base and the carry below the divisor, so no step leaves its words.
-/
namespace HbarKit.Radix

/-- The number that digits in words stand for. -/
def wordsValue (base : UInt32) (digits : List UInt32) : Nat :=
  value base.toNat (digits.map UInt32.toNat)

@[simp] theorem wordsValue_nil (base : UInt32) : wordsValue base [] = 0 := rfl

theorem wordsValue_cons (base d : UInt32) (ds : List UInt32) :
    wordsValue base (d :: ds) = d.toNat * base.toNat ^ ds.length + wordsValue base ds := by
  rw [wordsValue, List.map_cons, value_cons, List.length_map, wordsValue]

theorem wordsValue_concat (base : UInt32) (ds : List UInt32) (d : UInt32) :
    wordsValue base (ds ++ [d]) = wordsValue base ds * base.toNat + d.toNat := by
  rw [wordsValue, List.map_append, List.map_singleton, value_append_singleton, wordsValue]

/-- Behind a multiple of their power, digits below the base are the last ones of the number. -/
theorem digits_mul_add_value {base m : Nat} {ds : List Nat} (h : ∀ d ∈ ds, d < base) :
    digits base ds.length (m * base ^ ds.length + value base ds) = ds := by
  have happend := digits_append 0 m (value_lt h)
  rw [Nat.zero_add, digits_value h] at happend
  exact happend

/-- A conversion on its way. The division at hand has gone over some digits of the number. -/
structure Conversion where
  /-- The digits of the quotient that have taken their places. -/
  written : List UInt32
  /-- The digits of the number to which the division has not come yet. -/
  ahead : List UInt32
  /-- The remainder of the division so far. -/
  carry : UInt64
  /-- The last digits of the result. -/
  found : List UInt32
  /-- How many digits of the result are missing. -/
  missing : Nat

namespace Conversion

/-- A number before its conversion into so many digits. -/
def start (digits : List UInt32) (width : Nat) : Conversion := ⟨[], digits, 0, [], width⟩

/-- Divides a digit with the carry in front of it into a digit and a carry. -/
def divideDigit? (base target : UInt32) (carry : UInt64) (d : UInt32) :
    Option (UInt32 × UInt64) := do
  let n ← Exact.add? (← Exact.mul? carry base.toUInt64) d.toUInt64
  let (quotient, remainder) ← Exact.divMod? n target.toUInt64
  return (← Exact.narrow? quotient, remainder)

/-- A step, which fails if a number in it does not fit into its word. It goes over the next digit,
or takes the carry at the end of the number for a digit of the result. A conversion that misses
nothing is over. -/
def step? (base target : UInt32) (c : Conversion) : Option Conversion :=
  match c.missing, c.ahead with
  | 0, _ => some c
  | _ + 1, d :: ahead => do
    let (digit, carry) ← divideDigit? base target c.carry d
    return { c with written := c.written ++ [digit], ahead, carry }
  | missing + 1, [] => do
    return ⟨[], c.written, 0, (← Exact.narrow? c.carry) :: c.found, missing⟩

/-- So many steps. -/
def run? (base target : UInt32) : Nat → Conversion → Option Conversion
  | 0, c => some c
  | n + 1, c => (step? base target c).bind (run? base target n)

/-- How many steps are left. -/
def stepsLeft (c : Conversion) : Nat :=
  match c.missing with
  | 0 => 0
  | missing + 1 => c.ahead.length + 1 + missing * ((c.written ++ c.ahead).length + 1)

/-- What holds of a conversion of some digits into so many others, however far it has come. -/
structure Sound (base target : UInt32) (digits : List UInt32) (width : Nat) (c : Conversion) :
    Prop where
  /-- The digits in place stay below the base, those of the quotient as well. -/
  digit_lt : ∀ d ∈ c.written ++ c.ahead, d < base
  carry_lt : c.carry.toNat < target.toNat
  found_lt : ∀ d ∈ c.found, d < target
  length_digits : (c.written ++ c.ahead).length = digits.length
  length_found : c.found.length + c.missing = width
  /-- The quotient, the carry, what is ahead and what was found stand for the number. -/
  value_eq : ((wordsValue base c.written * target.toNat + c.carry.toNat) *
      base.toNat ^ c.ahead.length + wordsValue base c.ahead) * target.toNat ^ c.found.length +
    wordsValue target c.found = wordsValue base digits

variable {base target : UInt32}

/-- A carry below the divisor and a digit below the base make a number below their product. -/
theorem mul_add_lt {base target carry d : Nat} (hcarry : carry < target) (hd : d < base) :
    carry * base + d < target * base := by
  calc
    carry * base + d < carry * base + base := by omega
    _ = (carry + 1) * base := by ring
    _ ≤ target * base := Nat.mul_le_mul_right base hcarry

/-- The division of a digit does not leave its words, and gives a digit below the base and a carry
below the divisor again. -/
theorem divideDigit?_eq {carry : UInt64} {d : UInt32} (hcarry : carry.toNat < target.toNat)
    (hd : d < base) :
    ∃ digit carry', divideDigit? base target carry d = some (digit, carry') ∧ digit < base ∧
      carry'.toNat < target.toNat ∧
      digit.toNat * target.toNat + carry'.toNat = carry.toNat * base.toNat + d.toNat := by
  have hlt := mul_add_lt hcarry (show d.toNat < base.toNat from hd)
  have hwords : target.toNat * base.toNat < 2 ^ 32 * 2 ^ 32 :=
    Nat.mul_lt_mul'' target.toNat_lt base.toNat_lt
  have hbase := UInt32.toNat_toUInt64 base
  have htarget := UInt32.toNat_toUInt64 target
  have hdigit := UInt32.toNat_toUInt64 d
  obtain ⟨product, hmul, hproduct⟩ := Exact.exists_mul? (a := carry) (b := base.toUInt64)
    (by rw [hbase]; omega)
  rw [hbase] at hproduct
  obtain ⟨n, hadd, hn⟩ := Exact.exists_add? (a := product) (b := d.toUInt64)
    (by rw [hproduct, hdigit]; omega)
  rw [hproduct, hdigit] at hn
  obtain ⟨quotient, remainder, hdivMod, hquotient, hremainder⟩ :=
    Exact.exists_divMod? (a := n) (b := target.toUInt64) (by omega)
  rw [htarget] at hquotient hremainder
  have hbelow : quotient.toNat < base.toNat := by
    rw [hquotient, hn]
    exact Nat.div_lt_of_lt_mul hlt
  obtain ⟨digit, hnarrow, hq⟩ := Exact.exists_narrow? (hbelow.trans base.toNat_lt)
  refine ⟨digit, remainder, ?_, ?_, ?_, ?_⟩
  · simp [divideDigit?, hmul, hadd, hdivMod, hnarrow]
  · rw [UInt32.lt_iff_toNat_lt, hq]
    exact hbelow
  · rw [hremainder]
    exact Nat.mod_lt _ (by omega)
  · rw [hq, hquotient, hremainder, ← hn, mul_comm, Nat.div_add_mod]

/-! ## Steps -/

variable {digits : List UInt32} {width : Nat}

theorem sound_start (htarget : 0 < target) (hdigits : ∀ d ∈ digits, d < base) :
    (start digits width).Sound base target digits width where
  digit_lt := hdigits
  carry_lt := htarget
  found_lt _ hd := absurd hd List.not_mem_nil
  length_digits := rfl
  length_found := Nat.zero_add width
  value_eq := by simp [start]

/-- Going over a digit keeps what holds of a conversion. -/
theorem Sound.goOver {written ahead found : List UInt32} {d digit : UInt32} {carry carry' : UInt64}
    {missing : Nat}
    (h : Sound base target digits width ⟨written, d :: ahead, carry, found, missing⟩)
    (hdigit : digit < base) (hcarry : carry'.toNat < target.toNat)
    (heq : digit.toNat * target.toNat + carry'.toNat = carry.toNat * base.toNat + d.toNat) :
    Sound base target digits width ⟨written ++ [digit], ahead, carry', found, missing⟩ where
  digit_lt e he := by
    have hmem : e = digit ∨ e ∈ written ++ d :: ahead := by
      simp only [List.append_assoc, List.singleton_append, List.mem_append, List.mem_cons] at he ⊢
      tauto
    obtain rfl | hmem := hmem
    · exact hdigit
    · exact h.digit_lt e hmem
  carry_lt := hcarry
  found_lt := h.found_lt
  length_digits := by
    rw [← h.length_digits]
    simp
  length_found := h.length_found
  value_eq := by
    have hvalue := h.value_eq
    simp only [wordsValue_cons, List.length_cons, pow_succ] at hvalue
    simp only [wordsValue_concat]
    rw [← hvalue]
    congr 2
    calc
      _ = (wordsValue base written * base.toNat * target.toNat +
            (digit.toNat * target.toNat + carry'.toNat)) * base.toNat ^ ahead.length +
          wordsValue base ahead := by ring
      _ = _ := by
        rw [heq]
        ring

/-- Taking the carry at the end of the number for a digit keeps what holds of a conversion. -/
theorem Sound.turnBack {written found : List UInt32} {digit : UInt32} {carry : UInt64}
    {missing : Nat}
    (h : Sound base target digits width ⟨written, [], carry, found, missing + 1⟩)
    (hdigit : digit.toNat = carry.toNat) :
    Sound base target digits width ⟨[], written, 0, digit :: found, missing⟩ where
  digit_lt e he := h.digit_lt e (by simpa using he)
  carry_lt := Nat.zero_lt_of_lt h.carry_lt
  found_lt e he := by
    obtain rfl | he := List.mem_cons.mp he
    · rw [UInt32.lt_iff_toNat_lt, hdigit]
      exact h.carry_lt
    · exact h.found_lt e he
  length_digits := by
    rw [← h.length_digits]
    simp
  length_found := by
    have hlength := h.length_found
    simp only [List.length_cons] at hlength ⊢
    omega
  value_eq := by
    rw [← h.value_eq]
    simp only [wordsValue_cons, wordsValue_nil, List.length_cons, List.length_nil, pow_succ,
      pow_zero, hdigit, UInt64.toNat_zero]
    ring

/-- No step leaves its words. It keeps what holds of a conversion, and one step less is left. -/
theorem Sound.step {c : Conversion} (h : c.Sound base target digits width) :
    ∃ c', step? base target c = some c' ∧ c'.Sound base target digits width ∧
      c'.stepsLeft = c.stepsLeft - 1 := by
  obtain ⟨written, ahead, carry, found, missing⟩ := c
  cases missing with
  | zero => exact ⟨_, rfl, h, rfl⟩
  | succ missing =>
    cases ahead with
    | nil =>
      obtain ⟨digit, hnarrow, hdigit⟩ :=
        Exact.exists_narrow? (h.carry_lt.trans target.toNat_lt)
      refine ⟨_, by simp [step?, hnarrow], h.turnBack hdigit, ?_⟩
      -- The digit is the last one of the result, or another division begins.
      cases missing with
      | zero => simp [stepsLeft]
      | succ missing =>
        simp only [stepsLeft, List.nil_append, List.append_nil, List.length_nil, Nat.add_one_mul]
        omega
    | cons d ahead =>
      obtain ⟨digit, carry', hdivide, hdigit, hcarry, heq⟩ :=
        divideDigit?_eq h.carry_lt (h.digit_lt d (by simp))
      refine ⟨_, by simp [step?, hdivide], h.goOver hdigit hcarry heq, ?_⟩
      have hplaces : (written ++ [digit] ++ ahead).length = (written ++ d :: ahead).length := by
        simp
      simp only [stepsLeft, hplaces, List.length_cons]
      omega

/-- However many steps are made, none leaves its words. -/
theorem Sound.run {c : Conversion} (h : c.Sound base target digits width) (n : Nat) :
    ∃ c', run? base target n c = some c' ∧ c'.Sound base target digits width ∧
      c'.stepsLeft = c.stepsLeft - n := by
  induction n generalizing c with
  | zero => exact ⟨c, rfl, h, rfl⟩
  | succ n ih =>
    obtain ⟨next, hstep, hnext, hleft⟩ := h.step
    obtain ⟨last, hrun, hlast, hleft'⟩ := ih hnext
    refine ⟨last, ?_, hlast, ?_⟩
    · rw [run?, hstep, Option.bind_some, hrun]
    · omega

theorem stepsLeft_start : (start digits width).stepsLeft = width * (digits.length + 1) := by
  cases width with
  | zero => exact (Nat.zero_mul _).symm
  | succ width =>
    simp only [start, stepsLeft, List.nil_append]
    ring

theorem missing_eq_zero {c : Conversion} (h : c.stepsLeft = 0) : c.missing = 0 := by
  obtain ⟨written, ahead, carry, found, missing⟩ := c
  cases missing with
  | zero => rfl
  | succ missing =>
    simp only [stepsLeft] at h
    omega

/-- A conversion that misses nothing has found the digits of the number in the other base. -/
theorem Sound.found_eq {c : Conversion} (h : c.Sound base target digits width)
    (hdone : c.missing = 0) :
    c.found.map UInt32.toNat =
      convert base.toNat target.toNat width (digits.map UInt32.toNat) := by
  have hfound : ∀ n ∈ c.found.map UInt32.toNat, n < target.toNat := by
    intro n hn
    obtain ⟨d, hd, rfl⟩ := List.mem_map.mp hn
    exact h.found_lt d hd
  have hwidth : c.found.length = width := by
    rw [← h.length_found, hdone, Nat.add_zero]
  have hlast := digits_mul_add_value (m := (wordsValue base c.written * target.toNat +
    c.carry.toNat) * base.toNat ^ c.ahead.length + wordsValue base c.ahead) hfound
  rw [List.length_map, ← wordsValue, h.value_eq, hwidth] at hlast
  rw [convert_eq_digits (Nat.zero_lt_of_lt h.carry_lt), ← wordsValue, hlast]

/-- A number in words of 32 bits is converted exactly, whatever the two bases are. The result has as
many digits as asked for, all of them below the base, and stands for the remainder of the number. It
is what a machine finds in place with words of 64 bits for what it carries along: however many steps
it has made, none has left its words, the digits in place are below their base, and what they stand
for with all that was found is the number. It needs a step for each digit of the number and one
more, as often as there are digits to find. -/
theorem convert_in_place (htarget : 0 < target) (hdigits : ∀ d ∈ digits, d < base) (width : Nat) :
    let result := convert base.toNat target.toNat width (digits.map UInt32.toNat)
    result.length = width ∧ (∀ d ∈ result, d < target.toNat) ∧
      value target.toNat result = wordsValue base digits % target.toNat ^ width ∧
      ∀ n, ∃ c, run? base target n (start digits width) = some c ∧
        c.Sound base target digits width ∧
        (width * (digits.length + 1) ≤ n →
          c.missing = 0 ∧ c.found.map UInt32.toNat = result) := by
  have hpos : 0 < target.toNat := htarget
  refine ⟨length_convert _ _ _ _, fun d hd => lt_of_mem_convert hpos hd, ?_, fun n => ?_⟩
  · rw [convert_eq_digits hpos, value_digits, wordsValue]
  · have hstart : (start digits width).Sound base target digits width :=
      sound_start htarget hdigits
    obtain ⟨c, hrun, hc, hleft⟩ := hstart.run n
    refine ⟨c, hrun, hc, fun hn => ?_⟩
    rw [stepsLeft_start] at hleft
    have hdone := missing_eq_zero (show c.stepsLeft = 0 by omega)
    exact ⟨hdone, hc.found_eq hdone⟩

/-- The widest digits that two bases with a product of 32 bits allow. -/
theorem convert_in_place_widest :
    (2147483648 : UInt32).toNat * (2 : UInt32).toNat = 2 ^ 32 ∧ (0 : UInt32) < 2 ∧
      (∀ d ∈ ([2147483647, 5] : List UInt32), d < 2147483648) ∧
      ∃ c, run? 2147483648 2 9 (start [2147483647, 5] 3) = some c ∧ c.missing = 0 ∧
        c.found.map UInt32.toNat = [1, 0, 1] := by
  have htarget : (0 : UInt32) < 2 := by decide
  have hdigits : ∀ d ∈ ([2147483647, 5] : List UInt32), d < 2147483648 :=
    List.forall_mem_cons.mpr ⟨by decide, List.forall_mem_singleton.mpr (by decide)⟩
  obtain ⟨-, -, -, hrun⟩ := convert_in_place htarget hdigits 3
  obtain ⟨c, hc, -, hdone⟩ := hrun 9
  obtain ⟨hmissing, hfound⟩ := hdone (by decide)
  exact ⟨by decide, htarget, hdigits, c, hc, hmissing, hfound⟩

end Conversion

end HbarKit.Radix
