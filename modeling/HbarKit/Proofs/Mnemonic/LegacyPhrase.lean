import HbarKit.Proofs.Mnemonic.LegacyTable
import HbarKit.Proofs.Text.Decimal
import HbarKit.Proofs.Text.Lowercase
import HbarKit.Proofs.Text.Words

/-!
# Phrases of the old kind as text

The words of a table are words in lowercase, so a phrase made of them is read back from its text as
it is, and the table finds the entropy that the phrase was made for.
-/
namespace HbarKit

/-! ## Words of tables -/

namespace LegacyTable

theorem length_encode (t : LegacyTable) (entropy : Octets 32) :
    (t.encode entropy).length = phraseLength := by
  simp [encode]

theorem word_mem_words (t : LegacyTable) {i : Nat} (h : i < 4096) : t.word i ∈ t.words := by
  rw [← t.length_eq] at h
  rw [word, List.getD_eq_getElem _ _ h]
  exact List.getElem_mem h

theorem mem_words_of_mem_encode (t : LegacyTable) {entropy : Octets 32} {w : String}
    (hw : w ∈ t.encode entropy) : w ∈ t.words := by
  obtain ⟨i, hi, rfl⟩ := List.mem_map.mp hw
  exact t.word_mem_words (Radix.lt_of_mem_convert (by decide) hi)

theorem words_of_ofWords {words : List String} {t : LegacyTable} (h : ofWords words = .ok t) :
    t.words = words.map Text.lowercase := by
  simp only [ofWords] at h
  split at h
  · cases h
    rfl
  · cases h

/-- The words of a table that was read from a text are words, and in lowercase. -/
theorem isWord_of_ofText {text : String} {t : LegacyTable} (h : ofText text = .ok t) {w : String}
    (hw : w ∈ t.words) : Text.IsWord w.toList ∧ Text.lowercase w = w := by
  rw [words_of_ofWords h] at hw
  obtain ⟨v, hv, rfl⟩ := List.mem_map.mp hw
  obtain ⟨cs, hcs, rfl⟩ := List.mem_map.mp hv
  have hword := Text.isWord_of_mem_wordsAfter (by simp) hcs
  refine ⟨?_, Text.lowercase_lowercase _⟩
  simpa [Text.lowercase] using hword.lowercaseAfter []

end LegacyTable

/-! ## Phrases -/

namespace Mnemonic

theorem tidy_of_isWord {w : String} (hword : Text.IsWord w.toList) (hlower : Text.lowercase w = w) :
    tidy w = w := by
  rw [tidy, Text.trim_of_isWord hword, hlower]

/-- Words are read back from the text of a phrase. -/
theorem words_text {ws : List String} (h : ∀ w ∈ ws, Text.IsWord w.toList) :
    Text.words (legacy ws).text = ws := by
  have hread : Text.wordsAfter [] (Text.join [' '] (ws.map String.toList)) = ws.map String.toList :=
    Text.wordsAfter_join (by simpa using h)
  rw [Text.words, text, String.toList_ofList, words, hread, List.map_map]
  exact (List.map_congr_left fun w _ => String.ofList_toList).trans (List.map_id _)

/-- Twenty-two words in lowercase are read back as a phrase of the old kind. -/
theorem parse_text_legacy {ws : List String} (hlength : ws.length = LegacyTable.phraseLength)
    (h : ∀ w ∈ ws, Text.IsWord w.toList ∧ Text.lowercase w = w) :
    parse (legacy ws).text = .ok (legacy ws) := by
  have htidy : ws.map tidy = ws :=
    (List.map_congr_left fun w hw => tidy_of_isWord (h w hw).1 (h w hw).2).trans (List.map_id _)
  have hcount : ¬ (ws.length = 12 ∨ ws.length = 24) := by
    rw [hlength]
    decide
  rw [parse, words_text fun w hw => (h w hw).1, ofWords, htidy, if_neg hcount, if_pos hlength]

end Mnemonic

namespace LegacyTable

/-- A table writes every entropy in twenty-two of its words and reads it back from them, and it
accepts no words but these. If the table was read from a text, then the words also pass through the
text of a phrase, which gives the key of the entropy. -/
theorem decode_iff_encode_and_key_of_text (t : LegacyTable) :
    (∀ ws entropy, t.decode ws = .ok entropy ↔ ws = t.encode entropy) ∧
      (∀ entropy, (t.encode entropy).length = 22 ∧ ∀ w ∈ t.encode entropy, w ∈ t.words) ∧
      ∀ text, ofText text = .ok t → ∀ entropy, ∃ m,
        Mnemonic.parse (Mnemonic.legacy (t.encode entropy)).text = .ok m ∧
          m.legacyKeyWith t = .ok (.ofSeed entropy) := by
  refine ⟨t.decode_eq_ok_iff, ?_, ?_⟩
  · intro entropy
    exact ⟨t.length_encode entropy, fun w => t.mem_words_of_mem_encode⟩
  · intro text htext entropy
    have hwords : ∀ w ∈ t.encode entropy, Text.IsWord w.toList ∧ Text.lowercase w = w :=
      fun w hw => isWord_of_ofText htext (t.mem_words_of_mem_encode hw)
    refine ⟨_, Mnemonic.parse_text_legacy (t.length_encode entropy) hwords, ?_⟩
    have hdecode := (t.decode_eq_ok_iff (t.encode entropy) entropy).mpr rfl
    rw [Mnemonic.legacyKeyWith, hdecode]
    rfl

/-! ## The table of numerals -/

theorem isWord_digits (n : Nat) : Text.IsWord (Decimal.digits n) := by
  refine ⟨Decimal.digits_ne_nil n, ?_⟩
  intro c hc
  have hrange := Decimal.toNat_of_isDigit (Decimal.all_isDigit_digits n c hc)
  simp only [Text.isBlank, Bool.or_eq_false_iff, Bool.and_eq_false_iff, decide_eq_false_iff_not,
    beq_eq_false_iff_ne]
  omega

theorem lowercase_ofNat (n : Nat) : Text.lowercase (Decimal.ofNat n) = Decimal.ofNat n := by
  rw [Text.lowercase, Decimal.ofNat, String.toList_ofList, Text.lowercaseAfter_of_isLowercase]
  intro c hc
  have hrange := Decimal.toNat_of_isDigit (Decimal.all_isDigit_digits n c hc)
  exact Text.isLowercase_of_ascii (by omega) (by omega)

theorem ofNat_injective : Function.Injective Decimal.ofNat := by
  intro m n h
  have hdigits : Decimal.digits m = Decimal.digits n := String.ofList_injective h
  rw [← Decimal.value_digits m, hdigits, Decimal.value_digits]

/-- The table whose words are the numerals of their places. -/
def numerals : LegacyTable where
  words := (List.range 4096).map Decimal.ofNat
  length_eq := by simp
  nodup := List.nodup_range.map ofNat_injective

-- Rewriting with this keeps the list of 4096 numerals from being written out.
theorem words_numerals : numerals.words = (List.range 4096).map Decimal.ofNat := by
  rw [numerals]

theorem lowercase_words_numerals : numerals.words.map Text.lowercase = numerals.words := by
  rw [words_numerals, List.map_map]
  apply List.map_congr_left
  intro n _
  exact lowercase_ofNat n

theorem ofText_numerals :
    ofText (Mnemonic.legacy numerals.words).text = .ok numerals := by
  have hwords : Text.words (Mnemonic.legacy numerals.words).text = numerals.words := by
    apply Mnemonic.words_text
    intro w hw
    rw [words_numerals] at hw
    obtain ⟨n, _, rfl⟩ := List.mem_map.mp hw
    simpa [Decimal.ofNat] using isWord_digits n
  have hvalid : numerals.words.length = 4096 ∧ numerals.words.Nodup :=
    ⟨numerals.length_eq, numerals.nodup⟩
  simp only [ofText, ofWords, hwords, lowercase_words_numerals]
  rw [dif_pos hvalid]

theorem key_of_text_numerals :
    ofText (Mnemonic.legacy numerals.words).text = .ok numerals ∧ ∀ entropy, ∃ m,
      Mnemonic.parse (Mnemonic.legacy (numerals.encode entropy)).text = .ok m ∧
        m.legacyKeyWith numerals = .ok (.ofSeed entropy) :=
  ⟨ofText_numerals, (decode_iff_encode_and_key_of_text numerals).2.2 _ ofText_numerals⟩

end LegacyTable

end HbarKit
