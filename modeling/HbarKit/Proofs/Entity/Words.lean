import HbarKit.Proofs.Entity.Slip
import HbarKit.Proofs.Exact

/-!
# Checksums in words of 64 bits

A machine computes a checksum digit by digit, with words of 64 bits instead of numbers, and reduces
what it has counted at every digit. Here every sum and every product is refused when it does not
fit in a word. None is ever refused, however long the address is, and the word that comes out is the
code of the address.
-/
namespace HbarKit.Checksum

open Exact (add? mul?)

/-! ## The computation -/

/-- A weighted sum with one more digit, in base 31 up to a modulus. -/
def weigh? (modulus sum digit : UInt64) : Option UInt64 := do
  let shifted ← mul? 31 sum
  let total ← add? shifted digit
  return total % modulus

/-- What has been counted in the digits so far, and whether the next one stands at an even place. -/
structure Tally where
  weighted : UInt64
  even : UInt64
  odd : UInt64
  atEven : Bool

/-- The count before any digit. -/
def Tally.start : Tally := ⟨0, 0, 0, true⟩

/-- The count with one more digit. -/
def Tally.push (t : Tally) (digit : UInt64) : Option Tally := do
  let weighted ← weigh? 17576 t.weighted digit
  if t.atEven then
    let even ← add? t.even digit
    return ⟨weighted, even % 11, t.odd, false⟩
  else
    let odd ← add? t.odd digit
    return ⟨weighted, t.even, odd % 11, true⟩

/-- The salt of a ledger as a word. -/
def saltWord? (l : Ledger) : Option UInt64 :=
  (l.salt.map UInt64.ofNat).foldlM (weigh? 11881376) 0

/-- The word of a count of digits of a length, and of a salt. -/
def mix? (length : UInt64) (t : Tally) (salt : UInt64) : Option UInt64 := do
  let c ← add? (← mul? (length % 5) 11) t.even
  let c ← add? (← mul? c 11) t.odd
  let c ← add? (← mul? c 17576) t.weighted
  let c ← add? c salt
  let c ← pure (c % 11881376)
  let c ← mul? c 1000003
  return c % 11881376

/-- The code of a row of digits as a word. -/
def codeWord? (l : Ledger) (digits : List UInt64) : Option UInt64 := do
  let t ← digits.foldlM Tally.push .start
  mix? (UInt64.ofNat digits.length) t (← saltWord? l)

/-- The checksum of an address on a ledger by way of words. -/
def computeInWords? (l : Ledger) (shard realm num : UInt64) : Option String := do
  let chars := addressChars shard.toNat realm.toNat num.toNat
  let code ← codeWord? l (chars.map fun c => UInt64.ofNat (digitValue c))
  return String.ofList (letters 5 code.toNat)

/-! ## Nothing is refused -/

/-- A computation with words that gives the word of a number. -/
def Gives (x : Option UInt64) (n : Nat) : Prop := ∃ w, x = some w ∧ w.toNat = n

theorem Gives.bind {x : Option UInt64} {f : UInt64 → Option UInt64} {m n : Nat} (hx : Gives x m)
    (hf : ∀ w, w.toNat = m → Gives (f w) n) : Gives (x >>= f) n := by
  obtain ⟨w, rfl, hw⟩ := hx
  exact hf w hw

theorem gives_add? {a b : UInt64} {m n : Nat} (ha : a.toNat = m) (hb : b.toNat = n)
    (h : m + n < 2 ^ 64) : Gives (add? a b) (m + n) := by
  subst ha hb
  exact Exact.exists_add? h

theorem gives_mul? {a b : UInt64} {m n : Nat} (ha : a.toNat = m) (hb : b.toNat = n)
    (h : m * n < 2 ^ 64) : Gives (mul? a b) (m * n) := by
  subst ha hb
  exact Exact.exists_mul? h

theorem gives_mod {a b : UInt64} {m n : Nat} (ha : a.toNat = m) (hb : b.toNat = n) :
    Gives (pure (a % b)) (m % n) :=
  ⟨a % b, rfl, by rw [UInt64.toNat_mod, ha, hb]⟩

/-- Sums stay so far below their moduli that a weighted one always fits. -/
theorem gives_weigh? {modulus sum digit : UInt64} {p m d : Nat} (hmodulus : modulus.toNat = p)
    (hsum : sum.toNat = m) (hdigit : digit.toNat = d) (hm : m < 11881376) (hd : d < 256) :
    Gives (weigh? modulus sum digit) ((31 * m + d) % p) :=
  (gives_mul? (m := 31) rfl hsum (by omega)).bind fun _ hshifted =>
    (gives_add? hshifted hdigit (by omega)).bind fun _ htotal => gives_mod htotal hmodulus

/-! ## The count -/

theorem evenSum_oddSum_append_singleton (ds : List Nat) (d : Nat) :
    evenSum (ds ++ [d]) = evenSum ds + (if ds.length % 2 = 0 then d else 0) ∧
      oddSum (ds ++ [d]) = oddSum ds + (if ds.length % 2 = 0 then 0 else d) := by
  induction ds with
  | nil => simp [evenSum, oddSum]
  | cons e ds ih =>
    obtain ⟨heven, hodd⟩ := ih
    rw [List.cons_append, evenSum_cons, oddSum_cons, evenSum_cons, oddSum_cons, heven, hodd,
      List.length_cons]
    constructor
    · split <;> split <;> omega
    · split <;> split <;> omega

/-- A count holds the sums of the digits that were counted. -/
structure Tally.Counts (t : Tally) (ds : List Nat) : Prop where
  weighted : t.weighted.toNat = weightedSum ds
  even : t.even.toNat = evenSum ds % 11
  odd : t.odd.toNat = oddSum ds % 11
  atEven : t.atEven = decide (ds.length % 2 = 0)

theorem Tally.counts_start : Tally.start.Counts [] := by
  constructor <;> rfl

/-- The sum of the places of a digit with that digit. -/
theorem gives_place {sum digit : UInt64} {n : Nat} (hsum : sum.toNat = n % 11)
    (hdigit : digit.toNat < 256) :
    ∃ w, add? sum digit = some w ∧ (w % 11).toNat = (n + digit.toNat) % 11 := by
  obtain ⟨w, hw, hwn⟩ := gives_add? hsum rfl (show n % 11 + digit.toNat < 2 ^ 64 by omega)
  refine ⟨w, hw, ?_⟩
  rw [UInt64.toNat_mod, hwn]
  exact Nat.mod_add_mod n 11 digit.toNat

theorem Tally.Counts.push {t : Tally} {ds : List Nat} (ht : t.Counts ds) {digit : UInt64}
    (hdigit : digit.toNat < 256) :
    ∃ next, t.push digit = some next ∧ next.Counts (ds ++ [digit.toNat]) := by
  obtain ⟨hsumEven, hsumOdd⟩ := evenSum_oddSum_append_singleton ds digit.toNat
  have hlength : (ds ++ [digit.toNat]).length = ds.length + 1 := by simp
  have hlt := weightedSum_lt ds
  have hmodulus : (17576 : UInt64).toNat = 17576 := rfl
  obtain ⟨w, hw, hwn⟩ := gives_weigh? hmodulus ht.weighted rfl (by omega) hdigit
  have hweighted : w.toNat = weightedSum (ds ++ [digit.toNat]) := by
    rw [hwn, weightedSum, weightedSum, List.foldl_append]
    rfl
  have hplace := ht.atEven
  by_cases hparity : ds.length % 2 = 0
  · obtain ⟨s, hs, hsn⟩ := gives_place ht.even hdigit
    rw [decide_eq_true hparity] at hplace
    rw [if_pos hparity] at hsumEven hsumOdd
    refine ⟨⟨w, s % 11, t.odd, false⟩, ?_, hweighted, ?_, ?_, ?_⟩
    · simp [Tally.push, hplace, hw, hs]
    · rw [hsn, hsumEven]
    · rw [ht.odd, hsumOdd, Nat.add_zero]
    · rw [hlength, eq_comm, decide_eq_false_iff_not]
      omega
  · obtain ⟨s, hs, hsn⟩ := gives_place ht.odd hdigit
    rw [decide_eq_false hparity] at hplace
    rw [if_neg hparity] at hsumEven hsumOdd
    refine ⟨⟨w, t.even, s % 11, true⟩, ?_, hweighted, ?_, ?_, ?_⟩
    · simp [Tally.push, hplace, hw, hs]
    · rw [ht.even, hsumEven, Nat.add_zero]
    · rw [hsn, hsumOdd]
    · rw [hlength, eq_comm, decide_eq_true_iff]
      omega

/-- Rows of digits are counted to their end, however long they are. -/
theorem Tally.Counts.run {t : Tally} {front : List Nat} (ht : t.Counts front)
    {digits : List UInt64} (hdigits : ∀ d ∈ digits, d.toNat < 256) :
    ∃ last, digits.foldlM Tally.push t = some last ∧
      last.Counts (front ++ digits.map UInt64.toNat) := by
  induction digits generalizing t front with
  | nil => exact ⟨t, rfl, by simpa using ht⟩
  | cons d digits ih =>
    obtain ⟨hd, hrest⟩ := List.forall_mem_cons.mp hdigits
    obtain ⟨next, hnext, hcounts⟩ := ht.push hd
    obtain ⟨last, hlast, hcounted⟩ := ih hcounts hrest
    refine ⟨last, ?_, by simpa using hcounted⟩
    rw [List.foldlM_cons, hnext]
    exact hlast

/-! ## The code -/

theorem gives_saltWord? (l : Ledger) : Gives (saltWord? l) (saltSum l) := by
  cases l <;> exact ⟨_, rfl, rfl⟩

/-- What is put together from a count fits at every step. -/
theorem gives_mix? {t : Tally} {ds : List Nat} (ht : t.Counts ds) {length salt : UInt64}
    (hlength : length.toNat = ds.length) {l : Ledger} (hsalt : salt.toNat = saltSum l) :
    Gives (mix? length t salt) (code l ds) := by
  have hweighted := weightedSum_lt ds
  have hsalts := saltSum_lt l
  have hfifth : (length % 5).toNat = ds.length % 5 := by rw [UInt64.toNat_mod, hlength]; rfl
  refine (gives_mul? (n := 11) hfifth rfl (by omega)).bind fun _ hc => ?_
  refine (gives_add? hc ht.even (by omega)).bind fun _ hc => ?_
  refine (gives_mul? (n := 11) hc rfl (by omega)).bind fun _ hc => ?_
  refine (gives_add? hc ht.odd (by omega)).bind fun _ hc => ?_
  refine (gives_mul? (n := 17576) hc rfl (by omega)).bind fun _ hc => ?_
  refine (gives_add? hc ht.weighted (by omega)).bind fun _ hc => ?_
  refine (gives_add? hc hsalt (by omega)).bind fun _ hc => ?_
  refine (gives_mod (n := 11881376) hc rfl).bind fun _ hc => ?_
  refine (gives_mul? (n := 1000003) hc rfl (by omega)).bind fun _ hc => ?_
  exact gives_mod (n := 11881376) hc rfl

theorem gives_codeWord? (l : Ledger) {digits : List UInt64} (hdigits : ∀ d ∈ digits, d.toNat < 256)
    (hlength : digits.length < 2 ^ 64) :
    Gives (codeWord? l digits) (code l (digits.map UInt64.toNat)) := by
  obtain ⟨t, ht, hcounts⟩ := Tally.counts_start.run hdigits
  rw [List.nil_append] at hcounts
  obtain ⟨salt, hsalt, hsaltn⟩ := gives_saltWord? l
  have hword : (UInt64.ofNat digits.length).toNat = (digits.map UInt64.toNat).length := by
    rw [List.length_map, UInt64.toNat_ofNat', Nat.mod_eq_of_lt hlength]
  obtain ⟨w, hw, hwn⟩ := gives_mix? hcounts hword hsaltn
  refine ⟨w, ?_, hwn⟩
  rw [codeWord?, ht, hsalt]
  exact hw

theorem length_addressChars (a : Address) : a.chars.length < 2 ^ 64 := by
  have hdigits : ∀ n : UInt64, (Decimal.digits n.toNat).length ≤ 20 := fun n =>
    Decimal.length_digits_le (lt_trans n.toNat_lt (by decide))
  have hshard := hdigits a.shard
  have hrealm := hdigits a.realm
  have hnum := hdigits a.num
  simp only [Address.chars, addressChars, List.length_append, List.length_cons]
  omega

/-- No word overflows, and the words give the checksum. -/
theorem computeInWords?_eq (l : Ledger) (shard realm num : UInt64) :
    computeInWords? l shard realm num =
      some (compute l shard.toNat realm.toNat num.toNat) := by
  let a : Address := ⟨shard, realm, num⟩
  have hword : ∀ c ∈ a.chars, (UInt64.ofNat (digitValue c)).toNat = digitValue c := by
    intro c hc
    have hlt := digitValue_lt hc
    rw [UInt64.toNat_ofNat', Nat.mod_eq_of_lt (by omega)]
  have hdigits : ∀ d ∈ a.chars.map (fun c => UInt64.ofNat (digitValue c)), d.toNat < 256 := by
    intro d hd
    obtain ⟨c, hc, rfl⟩ := List.mem_map.mp hd
    have hlt := digitValue_lt hc
    rw [hword c hc]
    omega
  have hvalues : (a.chars.map fun c => UInt64.ofNat (digitValue c)).map UInt64.toNat =
      a.chars.map digitValue := by
    rw [List.map_map]
    exact List.map_congr_left hword
  obtain ⟨w, hw, hwn⟩ := gives_codeWord? l hdigits (by
    rw [List.length_map]
    exact length_addressChars a)
  rw [hvalues] at hwn
  calc computeInWords? l shard realm num
      = some (String.ofList (letters 5 w.toNat)) := by
        rw [computeInWords?]
        exact congrArg (· >>= _) hw
    _ = some (compute l shard.toNat realm.toNat num.toNat) := by rw [hwn]; rfl

end HbarKit.Checksum
