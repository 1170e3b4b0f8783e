import HbarKit.Mnemonic.EnglishWords
import HbarKit.Proofs.Except
import HbarKit.Proofs.Text.Lines
import HbarKit.Proofs.Text.Lowercase
import Mathlib

/-!
# Words of the English list

The list has 2048 words of small letters and is in alphabetical order, so no word occurs twice and
every word is found at its place again.
-/
namespace HbarKit.EnglishWords

/-- Some small letters of ASCII. -/
def isSmall (cs : List Char) : Bool :=
  !cs.isEmpty && cs.all fun c => 0x61 ≤ c.toNat && c.toNat ≤ 0x7A

/-- The words as characters. -/
def letters : List (List Char) := lines.flatMap fun line => Text.pieces ' ' line.toList

theorem all_eq_map_letters : all = letters.map String.ofList := by
  rw [letters, List.map_flatMap]
  rfl

set_option maxRecDepth 2000 in
/-- Everything that is read off the list itself. -/
theorem letters_listed :
    letters.length = 2048 ∧ letters.IsChain (· < ·) ∧ letters.all isSmall = true := by
  have hwritten : ∃ css : List (List Char), Text.Written lines css ∧
      (css.flatMap (Text.pieces ' ')).length = 2048 ∧
      (css.flatMap (Text.pieces ' ')).IsChain (· < ·) ∧
      (css.flatMap (Text.pieces ' ')).all isSmall = true := by
    apply Exists.intro
    apply And.intro
    · dsimp only [lines]
      repeat (apply List.Forall₂.cons; · rfl)
      exact .nil
    · decide +kernel
  obtain ⟨css, hcss, hlisted⟩ := hwritten
  rwa [letters, hcss.flatMap_toList]

theorem length_all : all.length = 2048 := by
  rw [all_eq_map_letters, List.length_map, letters_listed.1]

theorem nodup_all : all.Nodup := by
  have hordered : letters.Pairwise (· < ·) := List.isChain_iff_pairwise.mp letters_listed.2.1
  have hnodup : letters.Nodup := hordered.imp ne_of_lt
  rw [all_eq_map_letters]
  exact hnodup.map fun _ _ h => String.ofList_injective h

/-- The words are written in small letters. -/
theorem isSmall_of_mem {w : String} (h : w ∈ all) : isSmall w.toList = true := by
  rw [all_eq_map_letters] at h
  obtain ⟨cs, hcs, rfl⟩ := List.mem_map.mp h
  rw [String.toList_ofList]
  exact List.all_eq_true.mp letters_listed.2.2 cs hcs

theorem isSmall_iff {cs : List Char} :
    isSmall cs = true ↔ cs ≠ [] ∧ ∀ c ∈ cs, 0x61 ≤ c.toNat ∧ c.toNat ≤ 0x7A := by
  simp [isSmall]

theorem ascii_of_mem {w : String} (h : w ∈ all) : ∀ c ∈ w.toList, c.toNat < 0x80 := by
  intro c hc
  have hletter := (isSmall_iff.mp (isSmall_of_mem h)).2 c hc
  omega

theorem isWord_of_mem {w : String} (h : w ∈ all) : Text.IsWord w.toList := by
  obtain ⟨hne, hletters⟩ := isSmall_iff.mp (isSmall_of_mem h)
  refine ⟨hne, ?_⟩
  intro c hc
  have hletter := hletters c hc
  simp only [Text.isBlank, Bool.or_eq_false_iff, Bool.and_eq_false_iff, decide_eq_false_iff_not,
    beq_eq_false_iff_ne]
  omega

theorem lowercase_of_mem {w : String} (h : w ∈ all) : Text.lowercase w = w := by
  rw [Text.lowercase, Text.lowercaseAfter_of_isLowercase, String.ofList_toList]
  intro c hc
  have hletter := (isSmall_iff.mp (isSmall_of_mem h)).2 c hc
  exact Text.isLowercase_of_ascii (by omega) (by omega)

/-! ## Places -/

theorem index?_eq_some_iff {w : String} {i : Nat} :
    index? w = some i ↔ i < 2048 ∧ word i = w := by
  rw [← length_all]
  exact Text.idxOf?_eq_some_iff_getD nodup_all

theorem word_mem {i : Nat} (h : i < 2048) : word i ∈ all := by
  have hlt : i < all.length := by rwa [length_all]
  rw [word, List.getD_eq_getElem _ _ hlt]
  exact List.getElem_mem hlt

/-- Words are looked up to places in the list, and these have the words. -/
theorem mapM_index?_eq_some_iff {ws : List String} {indices : List Nat} :
    ws.mapM index? = some indices ↔ (∀ i ∈ indices, i < 2048) ∧ indices.map word = ws := by
  rw [mapM_eq_some_iff]
  constructor
  · intro h
    refine ⟨?_, map_eq_of_forall₂ (fun w i hi => (index?_eq_some_iff.mp hi).2) h⟩
    intro i hi
    obtain ⟨w, _, hw⟩ := exists_of_forall₂_of_mem h hi
    exact (index?_eq_some_iff.mp hw).1
  · rintro ⟨hlt, rfl⟩
    rw [List.forall₂_map_left_iff, List.forall₂_same]
    intro i hi
    exact index?_eq_some_iff.mpr ⟨hlt i hi, rfl⟩

end HbarKit.EnglishWords
