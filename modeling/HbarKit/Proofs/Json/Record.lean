import HbarKit.Proofs.Json.Scalar

/-!
# Reading records of JSON back

A record is read back from an object whose members are fields of it, each at most once, with values
that are read back in their turn, and that leaves out no field that has to be there. The order of
the members does not matter.
-/
namespace HbarKit.Json

variable {α σ : Type} {fields : List (Member σ)}

theorem readsBack_member {r : Reader α} {j : Json} {a : α} (name : String) (put : α → σ → σ)
    (s : σ) (h : ReadsBack r j a) : ReadsBack ((Member.of name r put).read s) j (put a s) := by
  intro rest hrest
  simp [Member.of, h rest hrest, bind, Except.bind, pure, Except.pure]

/-! ## Arrays and objects in writing -/

theorem write_array (items : List Json) (rest : List Char) :
    (array items).write rest = '[' :: writeItems true items (']' :: rest) := rfl

theorem writeItems_cons (first : Bool) (item : Json) (items : List Json) (rest : List Char) :
    writeItems first (item :: items) rest =
      (if first then [] else [',']) ++ item.write (writeItems false items rest) := rfl

theorem write_object (members : List (String × Json)) (rest : List Char) :
    (object members).write rest = '\x7b' :: writeMembers true members ('\x7d' :: rest) := rfl

theorem writeMembers_nil (first : Bool) (rest : List Char) :
    writeMembers first [] rest = rest := rfl

theorem writeMembers_cons (first : Bool) (name : String) (j : Json)
    (members : List (String × Json)) (rest : List Char) :
    writeMembers first ((name, j) :: members) rest =
      (if first then [] else [',']) ++ quote name ++ ':' ::
        j.write (writeMembers false members rest) := rfl

/-- Behind a member there is a comma or the end of the object. -/
theorem delimited_writeMembers (members : List (String × Json)) (rest : List Char) :
    Delimited (writeMembers false members ('\x7d' :: rest)) := by
  cases members with
  | nil => exact delimited_cons (.inr (.inr rfl)) rest
  | cons m members => exact delimited_cons (.inl rfl) _

/-! The length of a text bounds the number of members in it, which is what a reader counts on. -/

mutual

theorem length_le_length_write : ∀ (j : Json) (rest : List Char),
    rest.length ≤ (j.write rest).length
  | .null, rest => (List.suffix_append "null".toList rest).length_le
  | .bool true, rest => (List.suffix_append "true".toList rest).length_le
  | .bool false, rest => (List.suffix_append "false".toList rest).length_le
  | .integer n, rest => (List.suffix_append (Decimal.intDigits n) rest).length_le
  | .decimal x, rest => (List.suffix_append x.chars rest).length_le
  | .string s, rest => (List.suffix_append (quote s) rest).length_le
  | .array items, rest => by
    have hitems := length_le_length_writeItems true items (']' :: rest)
    rw [write_array]
    simp only [List.length_cons] at hitems ⊢
    omega
  | .object members, rest => by
    have hmembers := length_le_length_writeMembers true members ('\x7d' :: rest)
    rw [write_object]
    simp only [List.length_cons] at hmembers ⊢
    omega

theorem length_le_length_writeItems : ∀ (first : Bool) (items : List Json) (rest : List Char),
    rest.length ≤ (writeItems first items rest).length
  | _, [], rest => le_refl rest.length
  | first, item :: items, rest => by
    have hitem := length_le_length_write item (writeItems false items rest)
    have hitems := length_le_length_writeItems false items rest
    rw [writeItems_cons]
    simp only [List.length_append]
    omega

/-- Every member takes characters of its own. -/
theorem length_le_length_writeMembers : ∀ (first : Bool) (members : List (String × Json))
    (rest : List Char), members.length + rest.length ≤ (writeMembers first members rest).length
  | _, [], rest => by simp [writeMembers_nil]
  | first, (name, j) :: members, rest => by
    have hj := length_le_length_write j (writeMembers false members rest)
    have hmembers := length_le_length_writeMembers false members rest
    rw [writeMembers_cons]
    simp only [List.length_append, List.length_cons]
    omega

end

/-! ## Names of members -/

theorem nextName_quote (first : Bool) (name : String) (rest : List Char) :
    nextName first ((if first then [] else [',']) ++ quote name ++ rest) =
      .ok (some name, rest) := by
  cases first <;>
    simp [nextName, quote_append, skipBlank, stringFrom_quote, bind, Except.bind, pure, Except.pure]

theorem nextName_brace (first : Bool) (rest : List Char) :
    nextName first ('\x7d' :: rest) = .ok (none, '\x7d' :: rest) := by
  simp [nextName, skipBlank]

theorem colon_colon (rest : List Char) : colon (':' :: rest) = .ok rest := by
  simp [colon, skipBlank]

/-! ## Records -/

/-- Members of an object fill in a record, from one in which some fields were seen to the whole one:
each member is a field that was not seen yet, and in the end only fields that may be left out were
not seen. -/
inductive Fills (fields : List (Member σ)) :
    List String → σ → List (String × Json) → σ → Prop
  | done {seen : List String} {s : σ}
    (complete : fields.find? (fun f => !f.optional && !seen.contains f.name) = none) :
    Fills fields seen s [] s
  | field {seen : List String} {s s' t : σ} {name : String} {j : Json}
    {members : List (String × Json)} {f : Member σ}
    (known : fields.find? (fun f => f.name = name) = some f) (unseen : seen.contains name = false)
    (value : ReadsBack (f.read s) j s') (more : Fills fields (name :: seen) s' members t) :
    Fills fields seen s ((name, j) :: members) t

theorem readMembers_of_fills {seen : List String} {s t : σ} {members : List (String × Json)}
    (h : Fills fields seen s members t) (first : Bool) {fuel : Nat} (hfuel : members.length < fuel)
    (rest : List Char) :
    readMembers fields first seen s fuel (writeMembers first members ('\x7d' :: rest)) =
      .ok (t, rest) := by
  -- Every member uses up one unit of fuel, and the one that is left over is for the brace.
  induction h generalizing first fuel with
  | done complete =>
    obtain ⟨fuel, rfl⟩ := Nat.exists_eq_add_one_of_ne_zero (by omega : fuel ≠ 0)
    have hbrace : behindBrace ('\x7d' :: rest) = rest := by simp [behindBrace, skipBlank]
    rw [writeMembers_nil, readMembers, nextName_brace]
    simp only [bind, Except.bind, complete, hbrace, pure, Except.pure]
  | @field seen s s' t name j members f known unseen value more ih =>
    obtain ⟨fuel, rfl⟩ := Nat.exists_eq_add_one_of_ne_zero (by omega : fuel ≠ 0)
    rw [List.length_cons] at hfuel
    have hvalue := value _ (delimited_writeMembers members rest)
    have hmore := ih false (by omega : members.length < fuel)
    rw [writeMembers_cons, readMembers, nextName_quote]
    simp only [bind, Except.bind, known, unseen, colon_colon, hvalue, Bool.false_eq_true,
      ↓reduceIte]
    exact hmore

theorem readsBack_record (kind : String) {blank t : σ} {members : List (String × Json)}
    (h : Fills fields [] blank members t) :
    ReadsBack (readRecord kind fields blank) (object members) t := by
  intro rest _
  have hlength := length_le_length_writeMembers true members ('\x7d' :: rest)
  rw [write_object]
  simp only [readRecord, skipBlank]
  exact readMembers_of_fills h true (by omega) rest

/-- A whole text is read back from behind its last character. -/
theorem readWhole_compact {r : Reader α} {j : Json} {a : α} (h : ReadsBack r j a) :
    readWhole r j.compact = .ok a := by
  have hread := h [] delimited_nil
  simp [readWhole, compact, hread, finish, skipBlank, bind, Except.bind, pure, Except.pure]

end HbarKit.Json
