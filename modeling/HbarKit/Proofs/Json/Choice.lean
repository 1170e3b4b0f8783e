import HbarKit.Proofs.Json.Refusal

/-!
# Choices

One of some names is read from a string, and from an object with no other member whose value is
`null`. Every other value is refused, most of them for their first character.
-/
namespace HbarKit

/-! ## The characters of numerals -/

/-- Digits, signs, the point and the letter in front of an exponent. -/
def Json.InNumeral (c : Char) : Prop := Decimal.isDigit c = true ∨ c ∈ ['-', '+', '.', 'e']

namespace Binary64

open Json (InNumeral)

theorem isDigit_of_mem_shortest {x : Binary64} {c : Char} (h : c ∈ x.shortest.1) :
    Decimal.isDigit c = true := by
  rw [shortest, List.mem_reverse] at h
  have hdigits := List.mem_reverse.mp ((List.dropWhile_sublist _).subset h)
  exact Decimal.all_isDigit_digits _ c hdigits

theorem inNumeral_of_mem_plain {digits : List Char} (hdigits : ∀ c ∈ digits, InNumeral c)
    (exponent : Int) : ∀ c ∈ plain digits exponent, InNumeral c := by
  have hzero : InNumeral '0' := .inl rfl
  have hpoint : InNumeral '.' := .inr (by decide)
  have htake := fun c (h : c ∈ digits.take (exponent.natAbs + 1)) =>
    hdigits c (List.mem_of_mem_take h)
  have hdrop := fun c (h : c ∈ digits.drop (exponent.natAbs + 1)) =>
    hdigits c (List.mem_of_mem_drop h)
  intro c hc
  simp only [plain] at hc
  split at hc <;> try split at hc
  all_goals
    simp only [List.mem_append, List.mem_cons, List.mem_replicate, List.not_mem_nil] at hc
    grind

theorem inNumeral_of_mem_scientific {digits : List Char} (hdigits : ∀ c ∈ digits, InNumeral c)
    (exponent : Int) : ∀ c ∈ scientific digits exponent, InNumeral c := by
  have hmark : ∀ c ∈ ['-', '+', '.', 'e'], InNumeral c := fun c hc => .inr hc
  have htake := fun c (h : c ∈ digits.take 1) => hdigits c (List.mem_of_mem_take h)
  have hdrop := fun c (h : c ∈ digits.drop 1) => hdigits c (List.mem_of_mem_drop h)
  have hexponent : ∀ c ∈ Decimal.digits exponent.natAbs, InNumeral c :=
    fun c hc => .inl (Decimal.all_isDigit_digits _ c hc)
  intro c hc
  simp only [scientific] at hc
  split at hc <;> split at hc
  all_goals
    simp only [List.mem_append, List.mem_cons, List.not_mem_nil] at hc
    grind

theorem inNumeral_of_mem_chars (x : Binary64) : ∀ c ∈ x.chars, InNumeral c := by
  have hdigits : ∀ c ∈ x.shortest.1, InNumeral c := fun c hc => .inl (isDigit_of_mem_shortest hc)
  have hplain := inNumeral_of_mem_plain hdigits x.shortest.2
  have hscientific := inNumeral_of_mem_scientific hdigits x.shortest.2
  have hdigit : InNumeral '0' := .inl rfl
  have hpoint : InNumeral '.' := .inr (by decide)
  have hzero : ∀ c ∈ ['0', '.', '0'], InNumeral c := by simp [hdigit, hpoint]
  have hsign : ∀ c ∈ (if x.negative then ['-'] else []), InNumeral c := by
    split <;> simp [InNumeral]
  intro c hc
  simp only [chars] at hc
  split at hc
  · rcases List.mem_append.mp hc with hc | hc
    · exact hsign c hc
    · exact hzero c hc
  · rcases List.mem_append.mp hc with hc | hc
    · exact hsign c hc
    · split at hc
      · exact hplain c hc
      · exact hscientific c hc

end Binary64

namespace Json

variable {α : Type} {choices : List (String × α)}

theorem inNumeral_of_mem_intDigits (n : Int) : ∀ c ∈ Decimal.intDigits n, InNumeral c := by
  have hdigits : ∀ c ∈ Decimal.digits n.natAbs, InNumeral c :=
    fun c hc => .inl (Decimal.all_isDigit_digits _ c hc)
  rw [Decimal.intDigits]
  split
  · exact List.forall_mem_cons.mpr ⟨.inr (by decide), hdigits⟩
  · exact hdigits

/-! ## The first character of a value -/

/-- Characters in front of which there is no blank, and which begin no `null`, string or object. -/
def Foreign (cs : List Char) : Prop :=
  ∀ c, cs.head? = some c → c ∉ [' ', '\n', '\t', '\r', 'n', '"', '\x7b']

theorem not_inNumeral {c : Char} (h : c ∈ [' ', '\n', '\t', '\r', 'n', '"', '\x7b']) :
    ¬ InNumeral c := by
  simp only [List.mem_cons, List.not_mem_nil, or_false] at h
  obtain rfl | rfl | rfl | rfl | rfl | rfl | rfl := h <;> simp +decide [InNumeral]

theorem foreign_cons {c : Char} (h : c ∉ [' ', '\n', '\t', '\r', 'n', '"', '\x7b'])
    (rest : List Char) : Foreign (c :: rest) := by
  intro c' hc'
  cases hc'
  exact h

theorem foreign_numeral {cs rest : List Char} (hcs : ∀ c ∈ cs, InNumeral c)
    (hrest : Delimited rest) : Foreign (cs ++ rest) := by
  cases cs with
  | nil =>
    intro c hc
    obtain rfl | rfl | rfl := hrest c hc <;> decide
  | cons c cs =>
    exact foreign_cons (fun hc => not_inNumeral hc (hcs c List.mem_cons_self)) _

theorem write_cases (j : Json) {rest : List Char} (hrest : Delimited rest) :
    j = null ∨ (∃ s, j = string s) ∨ (∃ members, j = object members) ∨ Foreign (j.write rest) := by
  cases j with
  | null => exact .inl rfl
  | string s => exact .inr (.inl ⟨s, rfl⟩)
  | object members => exact .inr (.inr (.inl ⟨members, rfl⟩))
  | bool b => cases b <;> exact .inr (.inr (.inr (foreign_cons (by decide) _)))
  | integer n => exact .inr (.inr (.inr (foreign_numeral (inNumeral_of_mem_intDigits n) hrest)))
  | decimal x => exact .inr (.inr (.inr (foreign_numeral x.inNumeral_of_mem_chars hrest)))
  | array items => exact .inr (.inr (.inr (foreign_cons (by decide) _)))

theorem skipBlank_of_foreign {cs : List Char} (h : Foreign cs) : skipBlank cs = cs := by
  cases cs with
  | nil => rfl
  | cons c cs =>
    have hc := h c rfl
    simp only [List.mem_cons, List.not_mem_nil, not_or] at hc
    simp [skipBlank, hc]

/-- There is no blank in front of a value. -/
theorem skipBlank_write (j : Json) {rest : List Char} (hrest : Delimited rest) :
    skipBlank (j.write rest) = j.write rest := by
  obtain rfl | ⟨s, rfl⟩ | ⟨members, rfl⟩ | hforeign := write_cases j hrest
  · simp [write, skipBlank]
  · simp [write_string, skipBlank]
  · simp [write_object, skipBlank]
  · exact skipBlank_of_foreign hforeign

/-- The letter that begins `null` begins no other value. -/
theorem write_ne_n {j : Json} (h : j ≠ null) {rest : List Char} (hrest : Delimited rest)
    (cs : List Char) : j.write rest ≠ 'n' :: cs := by
  obtain rfl | ⟨s, rfl⟩ | ⟨members, rfl⟩ | hforeign := write_cases j hrest
  · exact absurd rfl h
  · simp [write_string]
  · simp [write_object]
  · intro hn
    have hc := hforeign 'n' (by rw [hn]; rfl)
    exact hc (by decide)

/-! ## Values that may be `null` -/

theorem readsBack_optional_null (r : Reader α) : ReadsBack (readOptional r) null none := by
  intro rest _
  simp [write, readOptional, skipBlank, word, bind, Except.bind, pure, Except.pure]

theorem readsBack_optional_of_ne {r : Reader α} {j : Json} {a : α} (hj : j ≠ null)
    (h : ReadsBack r j a) : ReadsBack (readOptional r) j (some a) := by
  intro rest hrest
  rw [readOptional, skipBlank_write j hrest]
  split
  · exact absurd ‹_› (write_ne_n hj hrest _)
  · simp [h rest hrest, bind, Except.bind, pure, Except.pure]

theorem refuses_optional {r : Reader α} {j : Json} (hj : j ≠ null) (h : Refuses r j) :
    Refuses (readOptional r) j := by
  intro rest hrest
  obtain ⟨fault, hread⟩ := h rest hrest
  rw [readOptional, skipBlank_write j hrest]
  split
  · exact absurd ‹_› (write_ne_n hj hrest _)
  · exact ⟨fault, by simp [hread, bind, Except.bind]⟩

theorem wrongKind_fails (expected : String) (cs : List Char) :
    ∃ fault, (wrongKind expected cs : Except Fault (α × List Char)) = .error fault := by
  unfold wrongKind
  cases found cs with
  | error fault => exact ⟨fault, rfl⟩
  | ok what => exact ⟨_, rfl⟩

theorem refuses_null {j : Json} (hj : j ≠ null) : Refuses readNull j := by
  intro rest hrest
  rw [readNull, skipBlank_write j hrest]
  split
  · exact absurd ‹_› (write_ne_n hj hrest _)
  · exact wrongKind_fails "unit" _

/-! ## Choices -/

/-- The name that a value has the form of a choice of. -/
def chosen? : Json → Option String
  | string s => some s
  | object [(s, null)] => some s
  | _ => none

theorem readWrappedName_quote (s : String) (rest : List Char) :
    readWrappedName (quote s ++ rest) = .ok (s, rest) := by
  simp [quote_append, readWrappedName, skipBlank, stringFrom_quote]

theorem readsBack_choice_of_chosen {j : Json} {s : String} {a : α} (hj : j.chosen? = some s)
    (h : choices.find? (fun c => c.1 = s) = some (s, a)) : ReadsBack (readChoice choices) j a := by
  unfold chosen? at hj
  split at hj
  · cases hj
    exact readsBack_choice h
  · cases hj
    intro rest _
    rw [write_object, writeMembers_cons]
    simp [readChoice, skipBlank, readWrappedName_quote, h, colon_colon, readNull, write, word,
      writeMembers_nil, bind, Except.bind, pure, Except.pure]
  · cases hj

/-- An object is refused if its first name is no choice, or does not stand alone with `null`. -/
theorem refuses_choice_object {members : List (String × Json)}
    (h : ∀ s, (object members).chosen? = some s → choices.find? (fun c => c.1 = s) = none) :
    Refuses (readChoice choices) (object members) := by
  intro rest _
  rw [write_object]
  cases members with
  | nil => exact ⟨_, rfl⟩
  | cons m members =>
    obtain ⟨name, j⟩ := m
    have hname : ∀ cs, readWrappedName (quote name ++ cs) = .ok (name, cs) :=
      readWrappedName_quote name
    rw [writeMembers_cons]
    cases hfind : choices.find? fun c => c.1 = name with
    | none => simp [readChoice, skipBlank, hname, hfind, bind, Except.bind, faultAt]
    | some c =>
      by_cases hnull : j = null
      · subst hnull
        cases members with
        | nil =>
          rw [h name rfl] at hfind
          cases hfind
        | cons m members =>
          obtain ⟨_, _⟩ := m
          simp [readChoice, skipBlank, hname, hfind, colon_colon, readNull, write, word,
            writeMembers_cons, bind, Except.bind, faultAt]
      · obtain ⟨fault, hread⟩ := refuses_null hnull _ (delimited_writeMembers members rest)
        refine ⟨fault, ?_⟩
        simp [readChoice, skipBlank, hname, hfind, colon_colon, hread, bind, Except.bind]

theorem refuses_choice {j : Json}
    (h : ∀ s, j.chosen? = some s → choices.find? (fun c => c.1 = s) = none) :
    Refuses (readChoice choices) j := by
  intro rest hrest
  obtain rfl | ⟨s, rfl⟩ | ⟨members, rfl⟩ | hforeign := write_cases j hrest
  · simp [readChoice, write, skipBlank, faultPast]
  · rw [write_string]
    simp [readChoice, skipBlank, stringFrom_quote, h s rfl, bind, Except.bind, faultAt]
  · exact refuses_choice_object h rest hrest
  · rw [readChoice, skipBlank_of_foreign hforeign]
    split
    · exact absurd (by decide) (hforeign '"' (by rw [‹j.write rest = _›]; rfl))
    · exact absurd (by decide) (hforeign '\x7b' (by rw [‹j.write rest = _›]; rfl))
    · exact ⟨_, rfl⟩
    · exact ⟨_, rfl⟩

end Json

end HbarKit
