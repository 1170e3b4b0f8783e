import HbarKit.Proofs.Mnemonic.LegacyPhrase
import HbarKit.Proofs.Mnemonic.StandardPhrase

/-!
# Phrases that are read back

A phrase is written with a blank between its words, and a text is read word by word. The phrases
that a text gives are read back from their own text. Entropy and given words also make phrases whose
text is none: texts have twelve, twenty-two or twenty-four words, but entropy has phrases of other
lengths, and a given word may be empty or hold blanks.
-/
namespace HbarKit.Mnemonic

/-- What it means that a phrase is read back from its text. -/
def ReadsBack (m : Mnemonic) : Prop :=
  ∃ found, parse m.text = .ok found ∧ found.words = m.words ∧ found.isLegacy = m.isLegacy ∧
    ∀ passphrase, found.seed passphrase = m.seed passphrase

/-- A phrase with one word of its text for each of its words, and as many as texts may have. -/
def IsPlain : Mnemonic → Prop
  | standard p => p.words.length = 12 ∨ p.words.length = 24
  | legacy ws => ∀ w ∈ ws, Text.IsWord w.toList

/-- What all phrases have in common that anything was made into. -/
def IsMade : Mnemonic → Prop
  | standard p => StandardPhrase.ofEntropy p.entropy = .ok p
  | legacy ws => ws.length = LegacyTable.phraseLength ∧ ∀ w ∈ ws, Text.lowercase w = w

/-! ## What phrases are made of -/

theorem ofEntropy_eq_ok_iff {entropy : Bytes} {m : Mnemonic} :
    ofEntropy entropy = .ok m ↔ ∃ p, StandardPhrase.ofEntropy entropy = .ok p ∧ standard p = m := by
  unfold ofEntropy
  cases StandardPhrase.ofEntropy entropy with
  | error e => simp [bind, Except.bind]
  | ok p => simp [bind, Except.bind, pure, Except.pure]

/-- The phrases that words make: standard ones, whose words are read in a row, and those of the old
kind, whose words are taken as they come. -/
theorem ofWords_eq_ok_iff {ws : List String} {m : Mnemonic} :
    ofWords ws = .ok m ↔
      ((ws.length = 12 ∨ ws.length = 24) ∧ ∃ p, standard p = m ∧
        StandardPhrase.ofText (Text.join [' '] ((ws.map tidy).map String.toList)) = .ok p) ∨
      (ws.length = LegacyTable.phraseLength ∧ legacy (ws.map tidy) = m) := by
  simp only [ofWords, List.length_map]
  split
  · rename_i hcount
    have hother : ws.length ≠ LegacyTable.phraseLength := by
      simp only [LegacyTable.phraseLength]
      omega
    simp [hcount, hother, bind_eq_ok, StandardPhrase.ofWords_eq_ok_iff, pure, Except.pure, and_comm]
  · rename_i hcount
    split
    · rename_i hlegacy
      rw [Except.ok.injEq]
      simp only [hcount, false_and, false_or, and_iff_right hlegacy]
    · rename_i hlegacy
      simp [hcount, hlegacy]

theorem isMade_of_ofEntropy {entropy : Bytes} {m : Mnemonic} (h : ofEntropy entropy = .ok m) :
    IsMade m := by
  obtain ⟨p, hp, rfl⟩ := ofEntropy_eq_ok_iff.mp h
  obtain ⟨_, _, _, _, hentropy, _⟩ := StandardPhrase.words_of_ofEntropy hp
  rwa [IsMade, hentropy]

theorem isMade_of_ofWords {ws : List String} {m : Mnemonic} (h : ofWords ws = .ok m) :
    IsMade m := by
  obtain ⟨_, p, rfl, hp⟩ | ⟨hlength, rfl⟩ := ofWords_eq_ok_iff.mp h
  · exact (StandardPhrase.ofText_eq_ok_iff.mp hp).1
  · refine ⟨by rw [List.length_map, hlength], ?_⟩
    intro w hw
    obtain ⟨v, _, rfl⟩ := List.mem_map.mp hw
    exact Text.lowercase_lowercase _

theorem isWord_tidy {w : String} (h : Text.IsWord (Text.trim w).toList) :
    Text.IsWord (tidy w).toList := by
  simpa [tidy, Text.lowercase] using h.lowercaseAfter []

theorem isWord_of_mem_words {s w : String} (h : w ∈ Text.words s) : Text.IsWord w.toList := by
  obtain ⟨cs, hcs, rfl⟩ := List.mem_map.mp h
  rw [String.toList_ofList]
  exact Text.isWord_of_mem_wordsAfter (by simp) hcs

/-- Words that are words make a plain phrase. -/
theorem isPlain_of_ofWords {ws : List String} {m : Mnemonic} (h : ofWords ws = .ok m)
    (hws : ∀ w ∈ ws, Text.IsWord (Text.trim w).toList) : IsPlain m := by
  have htidy : ∀ v ∈ ws.map tidy, Text.IsWord v.toList := by
    intro v hv
    obtain ⟨w, hw, rfl⟩ := List.mem_map.mp hv
    exact isWord_tidy (hws w hw)
  obtain ⟨hcount, p, rfl, hp⟩ | ⟨_, rfl⟩ := ofWords_eq_ok_iff.mp h
  · have hne : (ws.map tidy).map String.toList ≠ [] := by
      apply List.ne_nil_of_length_pos
      rw [List.length_map, List.length_map]
      omega
    have hlength := StandardPhrase.length_words_of_ofText hne (by simpa using htidy) hp
    rw [List.length_map, List.length_map] at hlength
    rwa [IsPlain, hlength]
  · exact htidy

theorem isPlain_of_parse {s : String} {m : Mnemonic} (h : parse s = .ok m) : IsPlain m := by
  apply isPlain_of_ofWords h
  intro w hw
  have hword := isWord_of_mem_words hw
  rwa [Text.trim_of_isWord hword]

/-! ## Reading back -/

/-- A plain standard phrase is read from its words. -/
theorem ofWords_words {p : StandardPhrase} (hmade : IsMade (standard p))
    (hplain : IsPlain (standard p)) : ofWords p.words = .ok (standard p) := by
  have hlisted := StandardPhrase.mem_all_of_ofEntropy hmade
  have htidy : p.words.map tidy = p.words :=
    (List.map_congr_left fun w hw => tidy_of_isWord (EnglishWords.isWord_of_mem (hlisted w hw))
      (EnglishWords.lowercase_of_mem (hlisted w hw))).trans (List.map_id _)
  rw [ofWords_eq_ok_iff, htidy]
  exact .inl ⟨hplain, p, rfl, StandardPhrase.ofText_text hmade⟩

/-- A plain phrase is read from its text. -/
theorem parse_text {m : Mnemonic} (hmade : IsMade m) (hplain : IsPlain m) :
    parse m.text = .ok m := by
  cases m with
  | legacy ws => exact parse_text_legacy hmade.1 fun w hw => ⟨hplain w hw, hmade.2 w hw⟩
  | standard p =>
    have hlisted := StandardPhrase.mem_all_of_ofEntropy hmade
    have hwords : Text.words (standard p).text = p.words :=
      words_text fun w hw => EnglishWords.isWord_of_mem (hlisted w hw)
    rw [parse, hwords]
    exact ofWords_words hmade hplain

/-- A phrase is read back if and only if it is plain. -/
theorem readsBack_iff_isPlain {m : Mnemonic} (hmade : IsMade m) : m.ReadsBack ↔ IsPlain m := by
  constructor
  · rintro ⟨found, hfound, hwords, hkind, _⟩
    have hplain := isPlain_of_parse hfound
    -- The phrase that is found is plain, and it is of the same kind and has the same words.
    cases m with
    | standard p =>
      cases found with
      | standard q =>
        rw [words, words] at hwords
        rwa [IsPlain, hwords] at hplain
      | legacy vs => cases hkind
    | legacy ws =>
      cases found with
      | standard q => cases hkind
      | legacy vs =>
        rw [words, words] at hwords
        rwa [hwords] at hplain
  · intro hplain
    exact ⟨m, parse_text hmade hplain, rfl, rfl, fun _ => rfl⟩

theorem isPlain_of_ofEntropy_iff {entropy : Bytes} {m : Mnemonic} (h : ofEntropy entropy = .ok m) :
    IsPlain m ↔ entropy.length = 16 ∨ entropy.length = 32 := by
  obtain ⟨p, hp, rfl⟩ := ofEntropy_eq_ok_iff.mp h
  obtain ⟨bits, _, _, _, _, hlength, hcount, _⟩ := StandardPhrase.words_of_ofEntropy hp
  rw [IsPlain, hcount, hlength]
  omega

/-- A phrase is read back if it was made from a text. A phrase of given words is read back if and
only if it is plain, which it is if none of the words is empty or holds blanks within. A phrase of
entropy is read back if and only if it has twelve or twenty-four words. -/
theorem readsBack_iff (m : Mnemonic) :
    (∀ entropy, ofEntropy entropy = .ok m →
      (m.ReadsBack ↔ entropy.length = 16 ∨ entropy.length = 32)) ∧
    (∀ ws, ofWords ws = .ok m → (m.ReadsBack ↔ m.IsPlain)) ∧
    (∀ ws, ofWords ws = .ok m → (∀ w ∈ ws, Text.IsWord (Text.trim w).toList) → m.ReadsBack) ∧
    ∀ s, parse s = .ok m → m.ReadsBack := by
  refine ⟨?_, ?_, ?_, ?_⟩
  · intro entropy h
    rw [readsBack_iff_isPlain (isMade_of_ofEntropy h), isPlain_of_ofEntropy_iff h]
  · intro ws h
    exact readsBack_iff_isPlain (isMade_of_ofWords h)
  · intro ws h hws
    exact (readsBack_iff_isPlain (isMade_of_ofWords h)).mpr (isPlain_of_ofWords h hws)
  · intro s h
    exact (readsBack_iff_isPlain (isMade_of_ofWords h)).mpr (isPlain_of_parse h)

/-! ## Entropy without texts -/

/-- Every string of four times four to eight bytes has a phrase. -/
theorem exists_ofEntropy {entropy : Bytes} {bits : Nat} (hlow : 4 ≤ bits) (hhigh : bits ≤ 8)
    (hlength : entropy.length = 4 * bits) : ∃ m, ofEntropy entropy = .ok m :=
  ⟨_, ofEntropy_eq_ok_iff.mpr
    ⟨_, StandardPhrase.ofEntropy_eq_ok_iff.mpr ⟨bits, hlow, hhigh, hlength, rfl⟩, rfl⟩⟩

/-- Twenty bytes have a phrase of fifteen words, whose text is not read. -/
theorem not_readsBack_fifteenWords :
    ∃ m, ofEntropy (List.replicate 20 0) = .ok m ∧ ¬ m.ReadsBack := by
  have hlength : (List.replicate 20 (0 : UInt8)).length = 4 * 5 := by decide
  obtain ⟨m, hm⟩ := exists_ofEntropy (by decide) (by decide) hlength
  refine ⟨m, hm, ?_⟩
  rw [readsBack_iff_isPlain (isMade_of_ofEntropy hm), isPlain_of_ofEntropy_iff hm]
  decide

theorem readsBack_twentyFourWords :
    (∃ m, ofEntropy (List.replicate 32 0) = .ok m ∧ parse m.text = .ok m ∧ m.ReadsBack) ∧
      ofWords (List.replicate 22 " A") = .ok (legacy (List.replicate 22 "a")) ∧
      (legacy (List.replicate 22 "a")).ReadsBack := by
  have hlength : (List.replicate 32 (0 : UInt8)).length = 4 * 8 := by decide
  obtain ⟨m, hm⟩ := exists_ofEntropy (by decide) (by decide) hlength
  have hplain := (isPlain_of_ofEntropy_iff hm).mpr (by decide)
  have hparse := parse_text (isMade_of_ofEntropy hm) hplain
  have htidy : (List.replicate 22 " A").map tidy = List.replicate 22 "a" := by
    rw [List.map_replicate]
    decide
  have hwords : ofWords (List.replicate 22 " A") = .ok (legacy (List.replicate 22 "a")) :=
    ofWords_eq_ok_iff.mpr (.inr ⟨rfl, by rw [htidy]⟩)
  refine ⟨⟨m, hm, hparse, (readsBack_iff m).2.2.2 _ hparse⟩, hwords, ?_⟩
  apply (readsBack_iff _).2.2.1 _ hwords
  intro w hw
  have htrim : (Text.trim " A").toList = ['A'] := by decide
  rw [List.eq_of_mem_replicate hw, htrim]
  exact ⟨by decide, List.forall_mem_singleton.mpr rfl⟩

end HbarKit.Mnemonic
