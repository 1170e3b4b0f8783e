import HbarKit.Json.Record
import HbarKit.Proofs.Bytes.Hex
import HbarKit.Proofs.Text.Decimal

/-!
# Reading strings and numerals of JSON back

Whatever is escaped in a string is read as the character it stands for, so every string is read
back. A numeral without sign is read back from in front of anything that does not go on with it;
what follows a value in a text is a comma, a bracket, a brace or nothing at all.
-/
namespace HbarKit.Json

/-- What may follow a value: the mark before another value, the end of what it is in, or nothing. -/
def Delimited (rest : List Char) : Prop :=
  ∀ c ∈ rest.head?, c = ',' ∨ c = ']' ∨ c = '\x7d'

theorem delimited_nil : Delimited [] := by
  intro c hc
  cases hc

theorem delimited_cons {c : Char} (h : c = ',' ∨ c = ']' ∨ c = '\x7d') (rest : List Char) :
    Delimited (c :: rest) := by
  intro d hd
  cases hd
  exact h

/-- The reader gives `a` for the text of `j`, whatever may follow it, and leaves what follows. -/
def ReadsBack (r : Reader α) (j : Json) (a : α) : Prop :=
  ∀ rest, Delimited rest → r (j.write rest) = .ok (a, rest)

/-! ## Strings -/

/-- A backslash and a letter stand for a character. -/
theorem stringFrom_letter {l c : Char} (h : escaped? l = some c) (acc rest : List Char) :
    stringFrom .plain acc ('\\' :: l :: rest) = stringFrom .plain (c :: acc) rest := by
  have hu : l ≠ 'u' := by
    rintro rfl
    cases h
  simp [stringFrom, h, hu]

/-- One of the first three digits of a code unit. -/
theorem stringFrom_digit {c : Char} {n : Nat} (h : Hex.digitValue? c = some n) {digits : List Char}
    (hlength : digits.length < 3) (acc rest : List Char) :
    stringFrom (.unit none digits) acc (c :: rest) =
      stringFrom (.unit none (c :: digits)) acc rest := by
  simp [stringFrom, h, hlength]

/-- The last digit of a code unit that is a character of its own. -/
theorem stringFrom_lastDigit {c : Char} {n : Nat} (h : Hex.digitValue? c = some n)
    {digits : List Char} (hlength : digits.length = 3) (hunit : unitValue (c :: digits) < 0xD800)
    (acc rest : List Char) :
    stringFrom (.unit none digits) acc (c :: rest) =
      stringFrom .plain (Char.ofNat (unitValue (c :: digits)) :: acc) rest := by
  have htrail : ¬ (0xDC00 ≤ unitValue (c :: digits) ∧ unitValue (c :: digits) ≤ 0xDFFF) := by omega
  have hlead : ¬ (0xD800 ≤ unitValue (c :: digits) ∧ unitValue (c :: digits) ≤ 0xDBFF) := by omega
  simp only [stringFrom, h, hlength, Option.isNone_some, Bool.false_eq_true, ↓reduceIte,
    Nat.lt_irrefl, htrail, hlead]

/-- A control that has no letter of its own is written by its number. -/
theorem stringFrom_unit {c : Char} (hc : c.toNat < 0x20) (acc rest : List Char) :
    stringFrom .plain acc ('\\' :: 'u' :: '0' :: '0' :: Hex.digit (c.toNat / 16) ::
      Hex.digit (c.toNat % 16) :: rest) = stringFrom .plain (c :: acc) rest := by
  have hzero : Hex.digitValue? '0' = some 0 := rfl
  have hhigh : Hex.digitValue? (Hex.digit (c.toNat / 16)) = some (c.toNat / 16) :=
    Hex.digitValue?_digit (by omega)
  have hlow : Hex.digitValue? (Hex.digit (c.toNat % 16)) = some (c.toNat % 16) :=
    Hex.digitValue?_digit (by omega)
  have hunit : unitValue [Hex.digit (c.toNat % 16), Hex.digit (c.toNat / 16), '0', '0'] =
      c.toNat := by
    simp only [unitValue, List.foldr_cons, List.foldr_nil, hhigh, hlow, hzero, Option.getD_some]
    omega
  calc stringFrom .plain acc ('\\' :: 'u' :: '0' :: '0' :: Hex.digit (c.toNat / 16) ::
        Hex.digit (c.toNat % 16) :: rest)
      = stringFrom (.unit none []) acc ('0' :: '0' :: Hex.digit (c.toNat / 16) ::
          Hex.digit (c.toNat % 16) :: rest) := by simp [stringFrom]
    _ = stringFrom (.unit none [Hex.digit (c.toNat / 16), '0', '0']) acc
          (Hex.digit (c.toNat % 16) :: rest) := by
      rw [stringFrom_digit hzero (by decide), stringFrom_digit hzero (by decide),
        stringFrom_digit hhigh (by decide)]
    _ = stringFrom .plain (c :: acc) rest := by
      rw [stringFrom_lastDigit hlow rfl (by omega), hunit, Char.ofNat_toNat]

/-- However a character is written, it is read as itself. -/
theorem stringFrom_escape (c : Char) (acc rest : List Char) :
    stringFrom .plain acc (escape c ++ rest) = stringFrom .plain (c :: acc) rest := by
  have hself : Char.ofNat c.toNat = c := Char.ofNat_toNat c
  have hletter : ∀ {l : Char} {n : Nat}, escaped? l = some (Char.ofNat n) → c.toNat = n →
      stringFrom .plain acc (['\\', l] ++ rest) = stringFrom .plain (c :: acc) rest := by
    intro l n hl hn
    rw [← hself, hn]
    exact stringFrom_letter hl acc rest
  -- The cases are those of `escape`: seven characters with letters, other controls, all others.
  unfold escape
  split
  · rename_i h
    exact hletter rfl (congrArg Char.toNat h)
  split
  · rename_i h
    exact hletter rfl (congrArg Char.toNat h)
  split
  · exact hletter rfl ‹_›
  split
  · exact hletter rfl ‹_›
  split
  · exact hletter rfl ‹_›
  split
  · exact hletter rfl ‹_›
  split
  · exact hletter rfl ‹_›
  split
  · exact stringFrom_unit ‹_› acc rest
  · rename_i hquote hbackslash _ _ _ _ _ hcontrol
    simp [stringFrom, hquote, hbackslash, hcontrol]

theorem stringFrom_flatMap_escape (cs acc rest : List Char) :
    stringFrom .plain acc (cs.flatMap escape ++ '"' :: rest) =
      .ok (String.ofList (acc.reverse ++ cs), rest) := by
  induction cs generalizing acc with
  | nil => simp [stringFrom]
  | cons c cs ih =>
    rw [List.flatMap_cons, List.append_assoc, stringFrom_escape, ih]
    simp

theorem quote_append (s : String) (rest : List Char) :
    quote s ++ rest = '"' :: (s.toList.flatMap escape ++ '"' :: rest) := by
  simp [quote]

/-- A string is read back from behind its opening quote. -/
theorem stringFrom_quote (s : String) (rest : List Char) :
    stringFrom .plain [] (s.toList.flatMap escape ++ '"' :: rest) = .ok (s, rest) := by
  rw [stringFrom_flatMap_escape, List.reverse_nil, List.nil_append, String.ofList_toList]

theorem write_string (s : String) (rest : List Char) :
    (string s).write rest = '"' :: (s.toList.flatMap escape ++ '"' :: rest) := by
  exact quote_append s rest

theorem readsBack_string (expected s : String) :
    ReadsBack (readString expected) (string s) s := by
  intro rest _
  rw [write_string]
  exact stringFrom_quote s rest

theorem readsBack_choice {choices : List (String × α)} {s : String} {a : α}
    (h : choices.find? (fun c => c.1 = s) = some (s, a)) :
    ReadsBack (readChoice choices) (string s) a := by
  intro rest _
  rw [write_string]
  simp [readChoice, skipBlank, stringFrom_quote, h, bind, Except.bind]

/-- A string is not taken for `null`. -/
theorem readsBack_optional {r : Reader α} {s : String} {a : α} (h : ReadsBack r (string s) a) :
    ReadsBack (readOptional r) (string s) (some a) := by
  intro rest hrest
  have hread := h rest hrest
  rw [write_string] at hread ⊢
  simp [readOptional, skipBlank, hread, bind, Except.bind, pure, Except.pure]

/-! ## Numerals -/

theorem skipBlank_of_isDigit {c : Char} (h : Decimal.isDigit c = true) (rest : List Char) :
    skipBlank (c :: rest) = c :: rest := by
  have hc := Decimal.toNat_of_isDigit h
  have hblank : ∀ d : Char, d.toNat < 48 → c ≠ d := by
    rintro d hd rfl
    omega
  simp [skipBlank, hblank ' ' (by decide), hblank '\n' (by decide), hblank '\t' (by decide),
    hblank '\r' (by decide)]

theorem scalar?_of_isDigit {c : Char} (h : Decimal.isDigit c = true) (rest : List Char) :
    scalar? (c :: rest) = some (numeral false (c :: rest)) := by
  have hletter : ∀ d, Decimal.isDigit d = false → c ≠ d := by
    rintro d hd rfl
    simp [h] at hd
  simp [scalar?, h, hletter 'n' rfl, hletter 't' rfl, hletter 'f' rfl, hletter '-' rfl,
    hletter '"' rfl]

theorem digitsOf_append {ds rest : List Char} (hds : ∀ c ∈ ds, Decimal.isDigit c = true)
    (hrest : Delimited rest) : digitsOf (ds ++ rest) = (ds, rest) := by
  have hstop : rest.takeWhile Decimal.isDigit = [] ∧ rest.dropWhile Decimal.isDigit = rest := by
    cases rest with
    | nil => exact ⟨rfl, rfl⟩
    | cons c rest =>
      have hc : Decimal.isDigit c = false := by
        obtain rfl | rfl | rfl := hrest c rfl <;> rfl
      simp [hc]
  rw [digitsOf, List.span_eq_takeWhile_dropWhile, List.takeWhile_append_of_pos hds,
    List.dropWhile_append_of_pos hds, hstop.1, hstop.2, List.append_nil]

/-- A number below the limit is read from its digits as it is. -/
theorem Significand.ofWhole_digits {n : Nat} (h : n < UInt64.size) :
    Significand.ofWhole (Decimal.digits n) = ⟨n, 0, false⟩ := by
  induction n using Decimal.digits.induct with
  | case1 n hn =>
    rw [Decimal.digits, if_pos hn]
    simp [ofWhole, push, Decimal.toNat_digit hn, h]
  | case2 n hn ih =>
    have hdigit := Decimal.toNat_digit (Nat.mod_lt n (by decide : 0 < 10))
    have hvalue : n / 10 * 10 + n % 10 = n := by omega
    have hfront : (Decimal.digits (n / 10)).foldl (push 0 1) ⟨0, 0, false⟩ = ⟨n / 10, 0, false⟩ :=
      ih (by omega)
    rw [Decimal.digits, if_neg hn, ofWhole, List.foldl_append, hfront]
    simp [push, hdigit, hvalue, h]

theorem numeral_digits {n : Nat} (h : n < UInt64.size) {rest : List Char}
    (hrest : Delimited rest) :
    numeral false (Decimal.digits n ++ rest) = .ok (integer n, rest) := by
  have hbehind : behindWhole false ⟨n, 0, false⟩ rest = .ok (integer n, rest) := by
    unfold behindWhole
    split
    · cases hrest _ rfl <;> simp_all
    · simp [Delimited] at hrest
    · simp [Delimited] at hrest
    · simp
  rw [numeral, digitsOf_append (Decimal.all_isDigit_digits n) hrest]
  simp only
  split
  · exact absurd ‹_› (Decimal.digits_ne_nil n)
  · exact absurd ‹_› (Decimal.digits_ne_zero_cons n _ _)
  · rw [Significand.ofWhole_digits h, hbehind]

theorem write_nat (n : Nat) (rest : List Char) :
    (Json.nat n).write rest = Decimal.digits n ++ rest := by
  have hpositive : ¬ (n : Int) < 0 := by omega
  have hwrite : (Json.nat n).write rest = Decimal.intDigits n ++ rest := rfl
  rw [hwrite, Decimal.intDigits, if_neg hpositive, Int.natAbs_natCast]

theorem found_digits {n : Nat} (h : n < UInt64.size) {rest : List Char} (hrest : Delimited rest) :
    found (Decimal.digits n ++ rest) = .ok (.integer n, rest) := by
  have hnumeral := numeral_digits h hrest
  obtain ⟨c, ds, hds⟩ := List.exists_cons_of_ne_nil (Decimal.digits_ne_nil n)
  have hc : Decimal.isDigit c = true := Decimal.all_isDigit_digits n c (by simp [hds])
  have hbracket : c ≠ '[' := by
    rintro rfl
    cases hc
  have hbrace : c ≠ '\x7b' := by
    rintro rfl
    cases hc
  rw [hds, List.cons_append] at hnumeral ⊢
  simp [found, skipBlank_of_isDigit hc, scalar?_of_isDigit hc, hnumeral, hbracket, hbrace, bind,
    Except.bind, pure, Except.pure]

/-- A number is read back up to any bound within 64 bits. -/
theorem readsBack_nat (kind : String) {n max : Nat} (hn : n ≤ max) (hmax : max < UInt64.size) :
    ReadsBack (readNat kind max) (Json.nat n) n := by
  intro rest hrest
  rw [write_nat, readNat, found_digits (by omega) hrest]
  simp [bind, Except.bind, pure, Except.pure, hn]

end HbarKit.Json
