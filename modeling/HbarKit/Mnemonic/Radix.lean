/-!
# Change of base

A number is given by its digits, the most significant first. Its digits in another base come one
at a time, the last one first, as the remainders of repeated long division.
-/
namespace HbarKit.Radix

def value (base : Nat) (digits : List Nat) : Nat := digits.foldl (fun n d => n * base + d) 0

/-- The last `width` digits of a number. -/
def digits (base : Nat) : (width n : Nat) → List Nat
  | 0, _ => []
  | width + 1, n => digits base width (n / base) ++ [n % base]

/-- Long division of a number given by its digits: the digits of the quotient, as many as there
were, and the remainder. `carry` is the remainder of the digits before. -/
def divide (base divisor : Nat) (carry : Nat) : List Nat → List Nat × Nat
  | [] => ([], carry)
  | d :: ds =>
    let n := carry * base + d
    let rest := divide base divisor (n % divisor) ds
    (n / divisor :: rest.1, rest.2)

/-- The last `width` digits in the base `target` of a number given by its digits. -/
def convert (base target : Nat) : (width : Nat) → List Nat → List Nat
  | 0, _ => []
  | width + 1, ds =>
    let division := divide base target 0 ds
    convert base target width division.1 ++ [division.2]

@[simp] theorem length_convert (base target width : Nat) (ds : List Nat) :
    (convert base target width ds).length = width := by
  induction width generalizing ds with
  | zero => rfl
  | succ width ih => simp [convert, ih]

@[simp] theorem length_digits (base width n : Nat) : (digits base width n).length = width := by
  induction width generalizing n with
  | zero => rfl
  | succ width ih => simp [digits, ih]

end HbarKit.Radix
