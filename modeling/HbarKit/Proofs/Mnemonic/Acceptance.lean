import HbarKit.Proofs.Mnemonic.Reading
import HbarKit.Proofs.Mnemonic.Spelling

/-!
# Which words are accepted

Given words are judged one by one. All of them have to be in the list before any bit is looked at,
and the first one that is not is named. A text is judged as a whole and a word that is given alone
in the same way, and both agree where no word holds a blank.
-/
namespace HbarKit

namespace StandardPhrase

/-- A word whose decomposition is in the list. -/
def Known (w : String) : Prop := Text.decompose w ∈ EnglishWords.all

instance (w : String) : Decidable (Known w) := inferInstanceAs (Decidable (_ ∈ _))

/-! ## Words and parts -/

/-- The parts of known words are their decompositions. -/
theorem parts_of_known {ws : List String} (hne : ws ≠ []) (hword : ∀ w ∈ ws, Text.IsWord w.toList)
    (hknown : ∀ w ∈ ws, Known w) :
    parts (Text.join [' '] (ws.map String.toList)) = ws.map Text.decompose := by
  have hascii : ∀ cs ∈ (ws.map String.toList).map Text.decomposeChars, Text.IsAscii cs := by
    simp only [List.map_map, List.forall_mem_map, Function.comp_apply]
    intro w hw
    have hlisted := EnglishWords.ascii_of_mem (hknown w hw)
    rwa [Text.decompose, String.toList_ofList] at hlisted
  rw [parts_of_isAscii (by simpa using hne) (by simpa using hword) hascii, List.map_map,
    List.map_map]
  rfl

/-- All parts of words are in the list exactly if the words are known. -/
theorem parts_listed_iff {ws : List String} (hne : ws ≠ [])
    (hword : ∀ w ∈ ws, Text.IsWord w.toList) :
    (∀ part ∈ parts (Text.join [' '] (ws.map String.toList)), part ∈ EnglishWords.all) ↔
      ∀ w ∈ ws, Known w := by
  constructor
  · intro h
    have hchars : ∀ cs ∈ ws.map String.toList, Text.IsWord cs := by simpa using hword
    have hascii := isAscii_of_parts hchars h
    rw [parts_of_isAscii (by simpa using hne) hchars hascii] at h
    simpa [Known, Text.decompose] using h
  · intro hknown
    rw [parts_of_known hne hword hknown]
    exact List.forall_mem_map.mpr hknown

theorem isSome_mapM_index?_iff {ws : List String} :
    (ws.mapM EnglishWords.index?).isSome = true ↔ ∀ w ∈ ws, w ∈ EnglishWords.all := by
  constructor
  · intro h
    obtain ⟨indices, hindices⟩ := Option.isSome_iff_exists.mp h
    obtain ⟨hlt, rfl⟩ := EnglishWords.mapM_index?_eq_some_iff.mp hindices
    simpa using fun i hi => EnglishWords.word_mem (hlt i hi)
  · intro h
    rw [mapM_index?_of_listed h]
    rfl

/-- A word that is given alone is looked up like a word among others. -/
theorem isKnown_iff {w : String} (hword : Text.IsWord w.toList) : isKnown w = true ↔ Known w := by
  have hparts := parts_listed_iff (List.cons_ne_nil w []) (by simpa using hword)
  rw [isKnown, isSome_mapM_index?_iff]
  simpa [Text.join] using hparts

/-! ## Refusals of texts -/

theorem ofText_of_unlisted {text : List Char}
    (h : ¬ ∀ part ∈ parts text, part ∈ EnglishWords.all) : ofText text = .error .unknownWord := by
  have hnone : (parts text).mapM EnglishWords.index? = none := by
    rw [← Option.not_isSome_iff_eq_none, isSome_mapM_index?_iff]
    exact h
  rw [ofText, hnone]

/-- Words of the list, as many as phrases have, are refused for nothing but their checksum. -/
theorem ofText_of_listed {text : List Char} (h : ∀ part ∈ parts text, part ∈ EnglishWords.all)
    (hcount : (parts text).length ∈ wordCounts) :
    (∃ p, ofText text = .ok p) ∨ ofText text = .error .checksum := by
  simp only [ofText, mapM_index?_of_listed h, if_pos hcount]
  split
  · exact .inl ⟨_, rfl⟩
  · exact .inr rfl

/-! ## Given words -/

variable {ws : List String}

theorem ne_nil_of_count (h : ws.length ∈ wordCounts) : ws ≠ [] := by
  rintro rfl
  exact absurd h (by decide)

/-- The first word that is not known is named. -/
theorem ofWords_of_unknown {front back : List String} {w : String}
    (hword : ∀ v ∈ front ++ w :: back, Text.IsWord v.toList) (hfront : ∀ v ∈ front, Known v)
    (hw : ¬ Known w) : ofWords (front ++ w :: back) = .error (.unknownWord w) := by
  have hmem : w ∈ front ++ w :: back := by simp
  have hunlisted := ofText_of_unlisted
    (mt (parts_listed_iff (List.ne_nil_of_mem hmem) hword).mp fun hknown => hw (hknown w hmem))
  have hfirst : (front ++ w :: back).find? (fun v => !isKnown v) = some w := by
    rw [List.find?_eq_some_iff_append]
    refine ⟨?_, front, back, rfl, ?_⟩
    · rw [Bool.not_eq_true', ← Bool.not_eq_true, isKnown_iff (hword w hmem)]
      exact hw
    · intro v hv
      rw [Bool.not_not, isKnown_iff (hword v (List.mem_append_left _ hv))]
      exact hfront v hv
  rw [ofWords, hunlisted]
  simp only [hfirst]

/-- Known words, as many as phrases have, are the phrase of what they spell. -/
theorem ofWords_of_spells {entropy : Bytes} (hword : ∀ w ∈ ws, Text.IsWord w.toList)
    (hcount : ws.length ∈ wordCounts) (h : Spells (ws.map Text.decompose) entropy) :
    ofWords ws = .ok ⟨ws.map Text.decompose, entropy⟩ := by
  have hne : ws ≠ [] := ne_nil_of_count hcount
  have hknown : ∀ w ∈ ws, Known w := fun w hw => h.listed _ (List.mem_map_of_mem hw)
  rw [ofWords_eq_ok_iff, ofText_eq_ok_iff, parts_of_known hne hword hknown]
  exact ⟨(spells_iff (by simpa using hcount)).mp h, rfl⟩

/-- Known words, as many as phrases have, that spell nothing are refused for their checksum. -/
theorem ofWords_of_not_spells (hword : ∀ w ∈ ws, Text.IsWord w.toList)
    (hcount : ws.length ∈ wordCounts) (hknown : ∀ w ∈ ws, Known w)
    (h : ∀ entropy, ¬ Spells (ws.map Text.decompose) entropy) : ofWords ws = .error .checksum := by
  have hne : ws ≠ [] := ne_nil_of_count hcount
  have hparts := parts_of_known hne hword hknown
  obtain ⟨p, hp⟩ | hchecksum := ofText_of_listed ((parts_listed_iff hne hword).mpr hknown)
    (by rwa [hparts, List.length_map])
  · obtain ⟨hentropy, hwords⟩ := ofText_eq_ok_iff.mp hp
    rw [hparts] at hwords
    have hphrase : p = ⟨ws.map Text.decompose, p.entropy⟩ := by rw [← hwords]
    rw [hphrase] at hentropy
    exact absurd ((spells_iff (by simpa using hcount)).mpr hentropy) (h p.entropy)
  · rw [ofWords, hchecksum]

end StandardPhrase

namespace Mnemonic

open StandardPhrase (Known Spells)

/-- What comes of tidied words, by their number, by the first of them that is not in the list and by
the bits that they stand for. -/
inductive Judged (words : List String) : Except MnemonicError Mnemonic → Prop where
  /-- Twelve or twenty-four words of the list whose last bits check the bits before them. -/
  | accepted {entropy : Bytes} (hcount : words.length = 12 ∨ words.length = 24)
      (hspells : Spells (words.map Text.decompose) entropy) :
      Judged words (.ok (standard ⟨words.map Text.decompose, entropy⟩))
  /-- A word that is not in the list, behind words that are. -/
  | unknownWord {front back : List String} {w : String}
      (hcount : words.length = 12 ∨ words.length = 24) (hwords : words = front ++ w :: back)
      (hfront : ∀ v ∈ front, Known v) (hw : ¬ Known w) : Judged words (.error (.unknownWord w))
  /-- Words of the list that spell no entropy. -/
  | checksum (hcount : words.length = 12 ∨ words.length = 24) (hknown : ∀ w ∈ words, Known w)
      (hspells : ∀ entropy, ¬ Spells (words.map Text.decompose) entropy) :
      Judged words (.error .checksum)
  /-- Twenty-two words, whatever they are. -/
  | legacy (hcount : words.length = 22) : Judged words (.ok (legacy words))
  /-- Some other number of words. -/
  | wordCount (hcount : words.length ∉ [12, 22, 24]) :
      Judged words (.error (.wordCount words.length))

/-- Words are judged in one of these ways. -/
theorem exists_judged (words : List String) : ∃ result, Judged words result := by
  by_cases hcount : words.length = 12 ∨ words.length = 24
  · by_cases hknown : ∀ w ∈ words, Known w
    · by_cases hspells : ∃ entropy, Spells (words.map Text.decompose) entropy
      · obtain ⟨entropy, hspells⟩ := hspells
        exact ⟨_, .accepted hcount hspells⟩
      · exact ⟨_, .checksum hcount hknown (not_exists.mp hspells)⟩
    · cases hfirst : words.find? fun w => !decide (Known w) with
      | none => exact absurd (by simpa using hfirst) hknown
      | some w =>
        obtain ⟨hw, front, back, hwords, hfront⟩ := List.find?_eq_some_iff_append.mp hfirst
        exact ⟨_, .unknownWord hcount hwords (by simpa using hfront) (by simpa using hw)⟩
  · by_cases hlegacy : words.length = 22
    · exact ⟨_, .legacy hlegacy⟩
    · refine ⟨_, .wordCount ?_⟩
      simpa [hlegacy] using hcount

theorem ofWords_of_judged {ws : List String} {result : Except MnemonicError Mnemonic}
    (hword : ∀ w ∈ ws.map tidy, Text.IsWord w.toList) (h : Judged (ws.map tidy) result) :
    ofWords ws = result := by
  have hstandard (hcount : (ws.map tidy).length = 12 ∨ (ws.map tidy).length = 24) :
      (ws.map tidy).length ∈ StandardPhrase.wordCounts ∧
        ofWords ws = (StandardPhrase.ofWords (ws.map tidy)).map standard := by
    refine ⟨?_, ?_⟩
    · obtain hcount | hcount := hcount <;> rw [hcount] <;> decide
    · rw [ofWords, if_pos hcount]
      cases StandardPhrase.ofWords (ws.map tidy) <;> rfl
  cases h with
  | accepted hcount hspells =>
    obtain ⟨hlisted, hwords⟩ := hstandard hcount
    rw [hwords, StandardPhrase.ofWords_of_spells hword hlisted hspells]
    rfl
  | unknownWord hcount htidy hfront hw =>
    rw [(hstandard hcount).2]
    rw [htidy] at hword ⊢
    rw [StandardPhrase.ofWords_of_unknown hword hfront hw]
    rfl
  | checksum hcount hknown hspells =>
    obtain ⟨hlisted, hwords⟩ := hstandard hcount
    rw [hwords, StandardPhrase.ofWords_of_not_spells hword hlisted hknown hspells]
    rfl
  | legacy hcount =>
    have hother : ¬ ((ws.map tidy).length = 12 ∨ (ws.map tidy).length = 24) := by omega
    rw [ofWords, if_neg hother, LegacyTable.phraseLength, if_pos hcount]
  | wordCount hcount =>
    simp only [List.mem_cons, List.not_mem_nil, or_false, not_or] at hcount
    have hother : ¬ ((ws.map tidy).length = 12 ∨ (ws.map tidy).length = 24) := by omega
    rw [ofWords, if_neg hother, LegacyTable.phraseLength, if_neg hcount.2.1]

/-- What comes of given words is the one thing that they are judged to be. -/
theorem ofWords_eq_iff_judged {ws : List String}
    (hws : ∀ w ∈ ws, Text.IsWord (Text.trim w).toList)
    (result : Except MnemonicError Mnemonic) :
    ofWords ws = result ↔ Judged (ws.map tidy) result := by
  have hword : ∀ w ∈ ws.map tidy, Text.IsWord w.toList :=
    List.forall_mem_map.mpr fun w hw => isWord_tidy (hws w hw)
  constructor
  · intro h
    obtain ⟨judged, hjudged⟩ := exists_judged (ws.map tidy)
    rw [← h, ofWords_of_judged hword hjudged]
    exact hjudged
  · exact ofWords_of_judged hword

/-! ## Words of entropy -/

/-- The phrase of sixteen or thirty-two bytes is accepted from its words. -/
theorem exists_ofEntropy_and_ofWords {entropy : Bytes}
    (h : entropy.length = 16 ∨ entropy.length = 32) :
    ∃ p, ofEntropy entropy = .ok (standard p) ∧ p.entropy = entropy ∧
      ofWords p.words = .ok (standard p) := by
  have hquarter : entropy.length = 4 * (entropy.length / 4) := by omega
  obtain ⟨m, hm⟩ := exists_ofEntropy (by omega) (by omega) hquarter
  have hplain := (isPlain_of_ofEntropy_iff hm).mpr h
  have hmade := isMade_of_ofEntropy hm
  obtain ⟨p, hp, rfl⟩ := ofEntropy_eq_ok_iff.mp hm
  obtain ⟨_, _, _, _, hentropy, _⟩ := StandardPhrase.words_of_ofEntropy hp
  exact ⟨p, hm, hentropy, ofWords_words hmade hplain⟩

/-- Entropy of 32 bytes is the seed of the key of the old kind. -/
theorem legacyKey_of_entropy {p : StandardPhrase} {seed : Octets 32}
    (h : p.entropy = seed.bytes) : (standard p).legacyKey = .ok (.ofSeed seed) := by
  simp only [legacyKey, h, Octets.ofBytes?_bytes]

/-- Words without blanks are accepted exactly if they are twenty-two, or if they are twelve or
twenty-four words of the list whose bits check each other, and a refusal names what is wrong with
them. The words of sixteen or thirty-two bytes are accepted for these bytes, and thirty-two bytes
are the seed of the key of the old kind. -/
theorem ofWords_judges_and_recovers :
    (∀ ws, (∀ w ∈ ws, Text.IsWord (Text.trim w).toList) →
      ∀ result, ofWords ws = result ↔ Judged (ws.map tidy) result) ∧
    ∀ entropy : Bytes, entropy.length = 16 ∨ entropy.length = 32 →
      ∃ p, ofEntropy entropy = .ok (standard p) ∧ p.entropy = entropy ∧
        ofWords p.words = .ok (standard p) ∧
        ∀ seed : Octets 32, seed.bytes = entropy →
          (standard p).legacyKey = .ok (.ofSeed seed) := by
  constructor
  · exact fun ws hws => ofWords_eq_iff_judged hws
  · intro entropy hlength
    obtain ⟨p, hp, hentropy, hwords⟩ := exists_ofEntropy_and_ofWords hlength
    refine ⟨p, hp, hentropy, hwords, ?_⟩
    intro seed hseed
    exact legacyKey_of_entropy (hentropy.trans hseed.symm)

/-- Eleven times the first word, and the word whose last bits check zeros. -/
theorem spells_zeros :
    Spells (List.replicate 11 "abandon" ++ ["about"]) (List.replicate 16 0) where
  listed := by decide +kernel
  length_eq := rfl
  bits_eq := by decide +kernel

/-- The words of sixteen zeros, some of them with capitals and blanks. -/
theorem ofWords_judges_and_recovers_zeros :
    let ws := List.replicate 11 " Abandon" ++ ["ABOUT\n"]
    let zeros : Bytes := List.replicate 16 0
    (∀ w ∈ ws, Text.IsWord (Text.trim w).toList) ∧ zeros.length = 16 ∧
      ofWords ws = .ok (standard ⟨List.replicate 11 "abandon" ++ ["about"], zeros⟩) ∧
      ∃ p, ofEntropy zeros = .ok (standard p) ∧ ofWords p.words = .ok (standard p) := by
  intro ws zeros
  have hws : ∀ w ∈ ws, Text.IsWord (Text.trim w).toList := by
    have hcapital : (Text.trim " Abandon").toList = ['A', 'b', 'a', 'n', 'd', 'o', 'n'] := by decide
    have hcapitals : (Text.trim "ABOUT\n").toList = ['A', 'B', 'O', 'U', 'T'] := by decide
    intro w hw
    obtain hw | hw := List.mem_append.mp hw
    · rw [List.eq_of_mem_replicate hw, hcapital]
      exact ⟨by decide, by simp [Text.isBlank]⟩
    · rw [List.mem_singleton.mp hw, hcapitals]
      exact ⟨by decide, by simp [Text.isBlank]⟩
  have hdecomposed : (ws.map tidy).map Text.decompose =
      List.replicate 11 "abandon" ++ ["about"] := rfl
  have hspells : Spells ((ws.map tidy).map Text.decompose) zeros := by
    rw [hdecomposed]
    exact spells_zeros
  have hjudged := Judged.accepted (.inl rfl) hspells
  rw [hdecomposed] at hjudged
  obtain ⟨p, hp, -, hwords, -⟩ := ofWords_judges_and_recovers.2 zeros (.inl rfl)
  exact ⟨hws, rfl, (ofWords_judges_and_recovers.1 ws hws _).mpr hjudged, p, hp, hwords⟩

end Mnemonic

end HbarKit
