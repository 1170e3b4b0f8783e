import HbarKit.Proofs.Json.Record

/-!
# Refused records

A record is refused if a value in it is: the members in front of that value are read back, and what
stands behind it is not looked at.
-/
namespace HbarKit.Json

variable {α σ : Type} {fields : List (Member σ)}

/-- The reader refuses the text of `j`, whatever may follow it. -/
def Refuses (r : Reader α) (j : Json) : Prop :=
  ∀ rest, Delimited rest → ∃ fault, r (j.write rest) = .error fault

theorem refuses_member {r : Reader α} {j : Json} (name : String) (put : α → σ → σ) (s : σ)
    (h : Refuses r j) : Refuses ((Member.of name r put).read s) j := by
  intro rest hrest
  obtain ⟨fault, hread⟩ := h rest hrest
  exact ⟨fault, by simp [Member.of, hread, bind, Except.bind]⟩

/-- Members of an object fill in a record up to one whose value is refused. -/
inductive Spoils (fields : List (Member σ)) : List String → σ → List (String × Json) → Prop
  | value {seen : List String} {s : σ} {name : String} {j : Json}
    {members : List (String × Json)} {f : Member σ}
    (known : fields.find? (fun f => f.name = name) = some f) (unseen : seen.contains name = false)
    (refused : Refuses (f.read s) j) : Spoils fields seen s ((name, j) :: members)
  | field {seen : List String} {s s' : σ} {name : String} {j : Json}
    {members : List (String × Json)} {f : Member σ}
    (known : fields.find? (fun f => f.name = name) = some f) (unseen : seen.contains name = false)
    (value : ReadsBack (f.read s) j s') (more : Spoils fields (name :: seen) s' members) :
    Spoils fields seen s ((name, j) :: members)

theorem readMembers_of_spoils {seen : List String} {s : σ} {members : List (String × Json)}
    (h : Spoils fields seen s members) (first : Bool) {fuel : Nat} (hfuel : members.length < fuel)
    (rest : List Char) :
    ∃ fault, readMembers fields first seen s fuel (writeMembers first members ('\x7d' :: rest)) =
      .error fault := by
  induction h generalizing first fuel with
  | @value seen s name j members f known unseen refused =>
    obtain ⟨fuel, rfl⟩ := Nat.exists_eq_add_one_of_ne_zero (by omega : fuel ≠ 0)
    obtain ⟨fault, hvalue⟩ := refused _ (delimited_writeMembers members rest)
    refine ⟨fault, ?_⟩
    rw [writeMembers_cons, readMembers, nextName_quote]
    simp only [bind, Except.bind, known, unseen, colon_colon, hvalue, Bool.false_eq_true,
      ↓reduceIte]
  | @field seen s s' name j members f known unseen value more ih =>
    obtain ⟨fuel, rfl⟩ := Nat.exists_eq_add_one_of_ne_zero (by omega : fuel ≠ 0)
    rw [List.length_cons] at hfuel
    have hvalue := value _ (delimited_writeMembers members rest)
    have hmore := ih false (by omega : members.length < fuel)
    rw [writeMembers_cons, readMembers, nextName_quote]
    simp only [bind, Except.bind, known, unseen, colon_colon, hvalue, Bool.false_eq_true,
      ↓reduceIte]
    exact hmore

theorem refuses_record (kind : String) {blank : σ} {members : List (String × Json)}
    (h : Spoils fields [] blank members) :
    Refuses (readRecord kind fields blank) (object members) := by
  intro rest _
  have hlength := length_le_length_writeMembers true members ('\x7d' :: rest)
  rw [write_object]
  simp only [readRecord, skipBlank]
  exact readMembers_of_spoils h true (by omega) rest

theorem readWhole_of_refuses {r : Reader α} {j : Json} (h : Refuses r j) :
    ∃ fault, readWhole r j.compact = .error fault := by
  obtain ⟨fault, hread⟩ := h [] delimited_nil
  exact ⟨fault, by simp [readWhole, compact, hread, bind, Except.bind]⟩

end HbarKit.Json
