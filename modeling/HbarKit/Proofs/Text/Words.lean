import HbarKit.Text.Blank
import HbarKit.Text.Split
import Mathlib.Data.List.GetD
import Mathlib.Data.List.TakeWhile
import Mathlib.Tactic

/-!
# Words of a text

The words of a text are not empty and have no blanks in them, and words with blanks between them are
read as these words.
-/
namespace HbarKit.Text

/-- A word: some characters, none of which is blank. -/
structure IsWord (cs : List Char) : Prop where
  ne_nil : cs ≠ []
  not_blank : ∀ c ∈ cs, isBlank c = false

theorem isWord_of_mem_wordsAfter {word cs w : List Char} (hword : ∀ c ∈ word, isBlank c = false)
    (h : w ∈ wordsAfter word cs) : IsWord w := by
  induction cs generalizing word with
  | nil =>
    simp only [wordsAfter] at h
    split at h
    · cases h
    · rename_i hne
      rw [List.mem_singleton.mp h]
      exact ⟨by simpa using hne, by simpa using hword⟩
  | cons c cs ih =>
    simp only [wordsAfter] at h
    split at h
    · split at h
      · exact ih (by simp) h
      · rename_i hne
        obtain rfl | h := List.mem_cons.mp h
        · exact ⟨by simpa using hne, by simpa using hword⟩
        · exact ih (by simp) h
    · rename_i hblank
      exact ih (List.forall_mem_cons.mpr ⟨by simpa using hblank, hword⟩) h

/-- Letters are added to the word that is being read. -/
theorem wordsAfter_append {w : List Char} (hw : ∀ c ∈ w, isBlank c = false)
    (word rest : List Char) :
    wordsAfter word (w ++ rest) = wordsAfter (w.reverse ++ word) rest := by
  induction w generalizing word with
  | nil => rfl
  | cons c w ih =>
    obtain ⟨hc, hw⟩ := List.forall_mem_cons.mp hw
    rw [List.cons_append, wordsAfter, if_neg (by simp [hc]), ih hw]
    simp

/-- Words are read back from between the blanks. -/
theorem wordsAfter_join {ws : List (List Char)} (h : ∀ w ∈ ws, IsWord w) :
    wordsAfter [] (join [' '] ws) = ws := by
  induction ws with
  | nil => rfl
  | cons w ws ih =>
    obtain ⟨hw, hws⟩ := List.forall_mem_cons.mp h
    cases ws with
    | nil =>
      have hread := wordsAfter_append hw.not_blank [] []
      rw [List.append_nil] at hread
      simp [join, hread, wordsAfter, hw.ne_nil]
    | cons v ws =>
      have hspace : isBlank ' ' = true := by decide
      rw [join, List.append_assoc, wordsAfter_append hw.not_blank]
      · simp [wordsAfter, hspace, hw.ne_nil, ih hws]
      · simp

theorem dropWhile_isBlank {cs : List Char} (h : ∀ c ∈ cs, isBlank c = false) :
    cs.dropWhile isBlank = cs := by
  rw [List.dropWhile_eq_self_iff]
  intro hpos
  simp [h]

/-- Blanks around a text are taken off. -/
theorem trimChars_between {front cs back : List Char} (hfront : ∀ c ∈ front, isBlank c = true)
    (hcs : ∀ c ∈ cs, isBlank c = false) (hback : ∀ c ∈ back, isBlank c = true) :
    trimChars (front ++ cs ++ back) = cs := by
  rw [trimChars, List.append_assoc, List.dropWhile_append_of_pos hfront]
  cases cs with
  | nil =>
    have hnil : back.dropWhile isBlank = [] := List.dropWhile_eq_nil_iff.mpr hback
    simp [hnil]
  | cons c cs =>
    have hstop : (c :: cs ++ back).dropWhile isBlank = c :: cs ++ back := by
      simp [hcs c List.mem_cons_self]
    have hend : (c :: cs).reverse.dropWhile isBlank = (c :: cs).reverse :=
      dropWhile_isBlank fun d hd => hcs d (List.mem_reverse.mp hd)
    rw [hstop, List.reverse_append, List.dropWhile_append_of_pos (by simpa using hback), hend,
      List.reverse_reverse]

theorem trimChars_of_not_blank {cs : List Char} (h : ∀ c ∈ cs, isBlank c = false) :
    trimChars cs = cs := by
  have hbetween : trimChars ([] ++ cs ++ []) = cs := trimChars_between (by simp) h (by simp)
  rwa [List.nil_append, List.append_nil] at hbetween

theorem trim_of_isWord {w : String} (h : IsWord w.toList) : trim w = w := by
  rw [trim, trimChars_of_not_blank h.not_blank, String.ofList_toList]

/-- Where no word occurs twice, a word is found at its place. -/
theorem idxOf?_eq_some_iff_getD {ws : List String} (h : ws.Nodup) {w : String} {i : Nat} :
    ws.idxOf? w = some i ↔ i < ws.length ∧ ws.getD i "" = w := by
  rw [List.idxOf?_eq_some_iff]
  constructor
  · rintro ⟨hi, hw, _⟩
    exact ⟨hi, by rw [List.getD_eq_getElem _ _ hi, hw]⟩
  · rintro ⟨hi, hw⟩
    rw [List.getD_eq_getElem _ _ hi] at hw
    refine ⟨hi, hw, ?_⟩
    intro j hj hjw
    have hji : j = i := h.getElem_inj_iff.mp (hjw.trans hw.symm)
    omega

end HbarKit.Text
