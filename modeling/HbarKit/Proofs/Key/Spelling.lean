import HbarKit.Key.Document
import HbarKit.Proofs.Bytes.Hex
import HbarKit.Proofs.Text.Words

/-!
# Ways to write a key

A key is written in hexadecimal digits of either case, with or without `0x` before them and with
any blanks around. All these texts are read as the same bytes.
-/
namespace HbarKit.KeyDocument

/-- Digits are no prefix, for a prefix would end in no digit. -/
theorem withoutPrefix_of_spelled {cs : List Char} {b : Bytes} (h : Hex.Spelled cs b) :
    withoutPrefix cs = cs := by
  cases b with
  | nil =>
    cases h
    rfl
  | cons x b =>
    obtain ⟨high, low, rest, rfl, -, hlow, -⟩ := Hex.spelled_cons_iff.mp h
    have hx : x.toNat < 256 := x.toNat_lt
    unfold withoutPrefix
    split
    · rename_i hprefix
      rw [List.cons.injEq, List.cons.injEq] at hprefix
      exact absurd hprefix.2.1 (Hex.ne_x_of_isDigit (by omega) hlow)
    · rfl

/-- A text that stands for some bytes: their digits, perhaps behind `0x`, between blanks. -/
inductive Spells : List Char → Bytes → Prop
  | digits {front cs back : List Char} {b : Bytes} (hfront : ∀ c ∈ front, Text.isBlank c = true)
      (hcs : Hex.Spelled cs b) (hback : ∀ c ∈ back, Text.isBlank c = true) :
      Spells (front ++ cs ++ back) b
  | marked {front cs back : List Char} {b : Bytes} (hfront : ∀ c ∈ front, Text.isBlank c = true)
      (hcs : Hex.Spelled cs b) (hback : ∀ c ∈ back, Text.isBlank c = true) :
      Spells (front ++ '0' :: 'x' :: cs ++ back) b

theorem spells_encode (b : Bytes) : Spells (Hex.encode b).toList b := by
  have h : Spells ([] ++ Hex.encodeChars b ++ []) b :=
    .digits (by simp) (Hex.spelled_encodeChars b) (by simp)
  rw [Hex.encode, String.toList_ofList]
  rwa [List.nil_append, List.append_nil] at h

theorem spelled_of_spells {cs : List Char} {b : Bytes} (h : Spells cs b) :
    Hex.Spelled (withoutPrefix (Text.trimChars cs)) b := by
  cases h with
  | @digits front cs back _ hfront hcs hback =>
    rw [Text.trimChars_between hfront (Hex.isBlank_of_spelled hcs) hback,
      withoutPrefix_of_spelled hcs]
    exact hcs
  | @marked front cs back _ hfront hcs hback =>
    have hmark : ∀ c ∈ '0' :: 'x' :: cs, Text.isBlank c = false := by
      refine List.forall_mem_cons.mpr ⟨by decide, List.forall_mem_cons.mpr ⟨by decide, ?_⟩⟩
      exact Hex.isBlank_of_spelled hcs
    rw [Text.trimChars_between hfront hmark hback]
    exact hcs

/-- All texts for some bytes are read as these bytes. -/
theorem ofText_of_spells {s : String} {b : Bytes} (h : Spells s.toList b) : ofText s = .ok b := by
  rw [ofText, Hex.decodeChars?_of_spelled (spelled_of_spells h)]

/-- Whatever is read from bytes is read from all texts for them. -/
theorem ofText_bind_of_spells {α : Type} {s : String} {b : Bytes} (h : Spells s.toList b)
    (f : Bytes → Except KeyError α) : (do f (← ofText s)) = f b := by
  rw [ofText_of_spells h]
  rfl

theorem ofText_encode (b : Bytes) : ofText (Hex.encode b) = .ok b :=
  ofText_of_spells (spells_encode b)

end HbarKit.KeyDocument
