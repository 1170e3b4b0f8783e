import HbarKit.Text.Split
import Mathlib.Tactic

/-!
# Cutting what was put together

Parts that do not contain the separator are given back by every way of cutting a text.
-/
namespace HbarKit.Text

theorem cut_append {sep : Char} {front : List Char} (h : sep ∉ front) (back : List Char) :
    cut sep (front ++ sep :: back) = some (front, back) := by
  induction front with
  | nil => simp [cut]
  | cons c front ih =>
    obtain ⟨hc, hf⟩ := List.ne_and_not_mem_of_not_mem_cons h
    simp [cut, hc.symm, ih hf]

theorem cut_eq_none {sep : Char} {cs : List Char} (h : sep ∉ cs) : cut sep cs = none := by
  induction cs with
  | nil => rfl
  | cons c cs ih =>
    obtain ⟨hc, hcs⟩ := List.ne_and_not_mem_of_not_mem_cons h
    simp [cut, hc.symm, ih hcs]

/-- What a cut gives are the parts around the first separator. -/
theorem cut_eq_some_iff {sep : Char} {cs front back : List Char} :
    cut sep cs = some (front, back) ↔ cs = front ++ sep :: back ∧ sep ∉ front := by
  constructor
  · intro h
    induction cs generalizing front with
    | nil => cases h
    | cons c cs ih =>
      rw [cut] at h
      split at h
      · rename_i hc
        cases h
        simp [hc]
      · rename_i hc
        obtain ⟨⟨front', back'⟩, hcut, hparts⟩ := Option.map_eq_some_iff.mp h
        cases hparts
        obtain ⟨rfl, hnot⟩ := ih hcut
        exact ⟨rfl, List.not_mem_cons_of_ne_of_not_mem (Ne.symm hc) hnot⟩
  · rintro ⟨rfl, hnot⟩
    exact cut_append hnot back

theorem cutLast_append {sep : Char} {back : List Char} (h : sep ∉ back) (front : List Char) :
    cutLast sep (front ++ sep :: back) = some (front, back) := by
  have hr : (front ++ sep :: back).reverse = back.reverse ++ sep :: front.reverse := by simp
  rw [cutLast, hr, cut_append (by simpa using h)]
  simp

theorem cutLast_eq_none {sep : Char} {cs : List Char} (h : sep ∉ cs) : cutLast sep cs = none := by
  rw [cutLast, cut_eq_none (by simpa using h)]
  rfl

theorem pieces_of_not_mem {sep : Char} {piece : List Char} (h : sep ∉ piece) :
    pieces sep piece = [piece] := by
  induction piece with
  | nil => rfl
  | cons c piece ih =>
    obtain ⟨hc, hp⟩ := List.ne_and_not_mem_of_not_mem_cons h
    simp [pieces, hc.symm, ih hp]

theorem pieces_append {sep : Char} {piece : List Char} (h : sep ∉ piece) (rest : List Char) :
    pieces sep (piece ++ sep :: rest) = piece :: pieces sep rest := by
  induction piece with
  | nil => simp [pieces]
  | cons c piece ih =>
    obtain ⟨hc, hp⟩ := List.ne_and_not_mem_of_not_mem_cons h
    simp [pieces, hc.symm, ih hp]

theorem pieces_ne_nil (sep : Char) (cs : List Char) : pieces sep cs ≠ [] := by
  cases cs with
  | nil => simp [pieces]
  | cons c cs =>
    rw [pieces]
    split
    · simp
    · split <;> simp

/-- The pieces with the separator between them are the text. -/
theorem join_pieces (sep : Char) (cs : List Char) : join [sep] (pieces sep cs) = cs := by
  induction cs with
  | nil => rfl
  | cons c cs ih =>
    rw [pieces]
    cases hpieces : pieces sep cs with
    | nil => exact absurd hpieces (pieces_ne_nil sep cs)
    | cons piece rest =>
      rw [hpieces] at ih
      split
      · rename_i hc
        simp [join, ih, hc]
      · -- The character goes to the front of the first piece, whether or not it is the only one.
        cases rest with
        | nil => simpa [join] using ih
        | cons second rest => simpa [join] using ih

/-- Pieces without the separator are the pieces of what they are joined to. -/
theorem pieces_join {sep : Char} {ps : List (List Char)} (hne : ps ≠ []) (h : ∀ p ∈ ps, sep ∉ p) :
    pieces sep (join [sep] ps) = ps := by
  induction ps with
  | nil => exact absurd rfl hne
  | cons p ps ih =>
    obtain ⟨hp, hps⟩ := List.forall_mem_cons.mp h
    cases ps with
    | nil => exact pieces_of_not_mem hp
    | cons q ps =>
      rw [join, List.append_assoc, List.singleton_append, pieces_append hp, ih (by simp) hps]
      simp

/-- What is joined is made of the pieces and the separator. -/
theorem mem_join {sep c : Char} {ps : List (List Char)} (h : c ∈ join [sep] ps) :
    c = sep ∨ ∃ p ∈ ps, c ∈ p := by
  induction ps with
  | nil => cases h
  | cons p ps ih =>
    cases ps with
    | nil => exact .inr ⟨p, List.mem_cons_self, h⟩
    | cons q ps =>
      rw [join, List.append_assoc, List.singleton_append, List.mem_append, List.mem_cons] at h
      · obtain hp | hsep | hrest := h
        · exact .inr ⟨p, List.mem_cons_self, hp⟩
        · exact .inl hsep
        · exact (ih hrest).imp_right fun ⟨r, hr, hc⟩ => ⟨r, List.mem_cons_of_mem p hr, hc⟩
      · simp

theorem mem_join_of_mem {sep : List Char} {c : Char} {ps : List (List Char)} {p : List Char}
    (hp : p ∈ ps) (hc : c ∈ p) : c ∈ join sep ps := by
  induction ps with
  | nil => cases hp
  | cons q ps ih =>
    cases ps with
    | nil => rwa [join, ← List.mem_singleton.mp hp]
    | cons r ps =>
      rw [join, List.mem_append, List.mem_append]
      · obtain rfl | hp := List.mem_cons.mp hp
        · exact .inl (.inl hc)
        · exact .inr (ih hp)
      · simp

theorem dropEnding?_append (front ending : List Char) :
    dropEnding? ending (front ++ ending) = some front := by
  simp [dropEnding?]

/-- A text does not end with what contains a character that it does not contain. -/
theorem dropEnding?_eq_none {c : Char} {ending cs : List Char} (he : c ∈ ending) (hc : c ∉ cs) :
    dropEnding? ending cs = none := by
  have hs : ¬ ending <:+ cs := fun hs => hc (hs.subset he)
  simp [dropEnding?, hs]

end HbarKit.Text
