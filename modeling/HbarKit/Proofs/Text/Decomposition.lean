import HbarKit.Proofs.Text.Lines
import HbarKit.Proofs.Text.Words
import HbarKit.Text.Decomposition
import Mathlib

/-!
# Decomposed text

ASCII text is its own decomposition. A character that is not blank may bring a blank into a text
when it is decomposed, but only together with characters outside ASCII.
-/
namespace HbarKit.Text

/-- Text in ASCII. -/
def IsAscii (cs : List Char) : Prop := ∀ c ∈ cs, c.toNat < 0x80

/-! ## The order of marks -/

theorem perm_insertMark (m : Nat × Char) (marks : List (Nat × Char)) :
    (insertMark m marks).Perm (m :: marks) := by
  induction marks with
  | nil => exact .refl _
  | cons next marks ih =>
    rw [insertMark]
    split
    · exact (ih.cons next).trans (.swap m next marks)
    · exact .refl _

/-- Putting marks in order only moves them. -/
theorem perm_orderMarks (cs : List Char) : (orderMarks cs).Perm cs := by
  have hmarks : (cs.foldr (fun c acc => insertMark (combiningClass c, c) acc) []).Perm
      (cs.map fun c => (combiningClass c, c)) := by
    induction cs with
    | nil => exact .refl _
    | cons c cs ih => exact (perm_insertMark _ _).trans (ih.cons _)
  have hsnd : (cs.map fun c => (combiningClass c, c)).map Prod.snd = cs := by
    rw [List.map_map]
    exact List.map_id'' (fun c => rfl) cs
  have hchars := hmarks.map Prod.snd
  rwa [hsnd] at hchars

/-- A character that starts a run stays in front of what follows it. -/
theorem insertMark_zero (c : Char) (marks : List (Nat × Char)) :
    insertMark (0, c) marks = (0, c) :: marks := by
  cases marks <;> simp [insertMark]

theorem orderMarks_of_isAscii {cs : List Char} (h : IsAscii cs) : orderMarks cs = cs := by
  have hmarks : cs.foldr (fun c acc => insertMark (combiningClass c, c) acc) [] =
      cs.map fun c => (0, c) := by
    induction cs with
    | nil => rfl
    | cons c cs ih =>
      obtain ⟨hc, hcs⟩ := List.forall_mem_cons.mp h
      have hclass : combiningClass c = 0 := if_pos (by omega)
      rw [List.foldr_cons, ih hcs, hclass, insertMark_zero, List.map_cons]
  rw [orderMarks, hmarks, List.map_map]
  exact List.map_id'' (fun c => rfl) cs

/-- ASCII text is its own decomposition. -/
theorem decomposeChars_of_isAscii {cs : List Char} (h : IsAscii cs) : decomposeChars cs = cs := by
  have hsame : cs.flatMap decomposeChar = cs := by
    induction cs with
    | nil => rfl
    | cons c cs ih =>
      obtain ⟨hc, hcs⟩ := List.forall_mem_cons.mp h
      rw [List.flatMap_cons, ih hcs, decomposeChar, if_pos hc, List.singleton_append]
  rw [decomposeChars, hsame, orderMarks_of_isAscii h]

/-! ## Blanks in the tables -/

/-- Whether no character of a run that decomposes to the space is anything but a blank. -/
def spaceFromBlank : List Nat → Bool
  | [first, count, target] =>
    target + count ≤ 0x20 || 0x20 < target || isBlank (Char.ofNat (first + 0x20 - target))
  | _ => true

/-- Whether a decomposition that has a space in it also has a character outside ASCII. -/
def spaceWithOthers (row : List Nat) : Bool :=
  !row.tail.contains 0x20 || row.tail.any fun n => 0x80 ≤ n && n < 0xD800

theorem singles_spaceFromBlank : singleDecompositions.all spaceFromBlank = true := by
  dsimp only [singleDecompositions]
  apply Written.all_rows
  · repeat (apply List.Forall₂.cons; · rfl)
    exact .nil
  · decide +kernel

theorem longs_spaceWithOthers : longDecompositions.all spaceWithOthers = true := by
  dsimp only [longDecompositions]
  apply Written.all_rows
  · repeat (apply List.Forall₂.cons; · rfl)
    exact .nil
  · decide +kernel

/-- A decomposition is that of a syllable, or in a row of a table, or the character itself. -/
theorem tableDecomposition_cases (n : Nat) :
    tableDecomposition n = decomposeHangul n ∨
    (∃ first count target, [first, count, target] ∈ singleDecompositions ∧ first ≤ n ∧
      n < first + count ∧ tableDecomposition n = [n - first + target]) ∨
    (∃ row ∈ longDecompositions, tableDecomposition n = row.tail) ∨
    tableDecomposition n = [n] := by
  unfold tableDecomposition
  split
  · exact .inl rfl
  · split
    · rename_i first count target hrow
      have hrange := List.find?_some hrow
      simp only [Bool.and_eq_true, decide_eq_true_eq] at hrange
      exact .inr (.inl ⟨first, count, target, List.mem_of_find?_eq_some hrow, hrange.1, hrange.2,
        rfl⟩)
    · split
      · rename_i head target hrow
        exact .inr (.inr (.inl ⟨_, List.mem_of_find?_eq_some hrow, rfl⟩))
      · exact .inr (.inr (.inr rfl))

/-- A character outside ASCII with a space in its decomposition is blank, or it has a character
outside ASCII in its decomposition, too. -/
theorem space_mem_tableDecomposition {n : Nat} (hn : 0x80 ≤ n) (h : 0x20 ∈ tableDecomposition n) :
    isBlank (Char.ofNat n) = true ∨ ∃ m ∈ tableDecomposition n, 0x80 ≤ m ∧ m < 0xD800 := by
  obtain hhangul | ⟨first, count, target, hrow, hfirst, hlast, hsingle⟩ | ⟨row, hrow, hlong⟩ | hself
    := tableDecomposition_cases n
  · rw [hhangul] at h
    simp only [decomposeHangul] at h
    split at h <;> simp at h <;> omega
  · rw [hsingle, List.mem_singleton] at h
    have hcheck := List.all_eq_true.mp singles_spaceFromBlank _ hrow
    simp only [spaceFromBlank, Bool.or_eq_true, decide_eq_true_eq] at hcheck
    have hplace : first + 0x20 - target = n := by omega
    rw [hplace] at hcheck
    exact .inl (hcheck.resolve_left (by omega))
  · rw [hlong] at h ⊢
    have hcheck := List.all_eq_true.mp longs_spaceWithOthers row hrow
    simp only [spaceWithOthers, Bool.or_eq_true, Bool.not_eq_true', List.any_eq_true,
      Bool.and_eq_true, decide_eq_true_eq] at hcheck
    exact .inr (hcheck.resolve_left (by simp [h]))
  · rw [hself, List.mem_singleton] at h
    omega

/-! ## Blanks in decomposed text -/

theorem space_mem_decomposeChar {c : Char} (hc : isBlank c = false) (h : ' ' ∈ decomposeChar c) :
    ∃ d ∈ decomposeChar c, 0x80 ≤ d.toNat := by
  unfold decomposeChar at h ⊢
  split at h
  · rw [← List.mem_singleton.mp h] at hc
    cases hc
  · rename_i hascii
    rw [if_neg hascii]
    obtain ⟨m, hm, hspace⟩ := List.mem_map.mp h
    have hnumber := Char.toNat_ofNat m
    rw [hspace] at hnumber
    have hm32 : m = 0x20 := by
      split at hnumber
      · exact hnumber.symm
      · cases hnumber
    subst hm32
    obtain hblank | ⟨k, hk, hlow, hhigh⟩ := space_mem_tableDecomposition (by omega) hm
    · rw [Char.ofNat_toNat, hc] at hblank
      cases hblank
    · have hvalue : (Char.ofNat k).toNat = k := by
        rw [Char.toNat_ofNat, if_pos (.inl hhigh)]
      exact ⟨Char.ofNat k, List.mem_map_of_mem hk, by omega⟩

/-- Text without blanks has no space in its decomposition if that is in ASCII. -/
theorem space_not_mem_of_isAscii {cs : List Char} (hcs : ∀ c ∈ cs, isBlank c = false)
    (h : IsAscii (decomposeChars cs)) : ' ' ∉ decomposeChars cs := by
  have hmem : ∀ d, d ∈ decomposeChars cs ↔ ∃ c ∈ cs, d ∈ decomposeChar c := by
    intro d
    rw [decomposeChars, (perm_orderMarks _).mem_iff, List.mem_flatMap]
  intro hspace
  obtain ⟨c, hc, hspace⟩ := (hmem ' ').mp hspace
  obtain ⟨d, hd, hlarge⟩ := space_mem_decomposeChar (hcs c hc) hspace
  have hsmall := h d ((hmem d).mpr ⟨c, hc, hd⟩)
  omega

end HbarKit.Text
