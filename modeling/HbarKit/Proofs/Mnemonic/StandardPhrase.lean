import HbarKit.Mnemonic.StandardPhrase
import HbarKit.Proofs.Bytes.Numbers
import HbarKit.Proofs.Mnemonic.EnglishWords
import HbarKit.Proofs.Mnemonic.Radix
import HbarKit.Proofs.Text.Decomposition
import HbarKit.Proofs.Text.Split

/-!
# Standard phrases and their entropy

A phrase and its entropy determine each other: what is read from a text is the phrase of its
entropy, and every phrase is read from its own text.
-/
namespace HbarKit.StandardPhrase

/-! ## Entropy and places -/

theorem checkBits_lt {bits : Nat} (h : bits ≤ 8) (entropy : Bytes) :
    checkBits bits entropy < 2 ^ bits := by
  have hbyte := ((Hash.sha256.digest entropy).headD 0).toNat_lt
  have hsplit : 2 ^ 8 = 2 ^ (8 - bits) * 2 ^ bits := by
    rw [← pow_add, Nat.sub_add_cancel h]
  apply Nat.div_lt_of_lt_mul
  exact lt_of_lt_of_eq hbyte hsplit

/-- The number that the words of some entropy stand for. -/
def number (bits : Nat) (entropy : Bytes) : Nat :=
  Bytes.toNatBE entropy * 2 ^ bits + checkBits bits entropy

theorem number_div {bits : Nat} (h : bits ≤ 8) (entropy : Bytes) :
    number bits entropy / 2 ^ bits = Bytes.toNatBE entropy := by
  have hcheck := checkBits_lt h entropy
  rw [number, Nat.mul_comm, Nat.mul_add_div (by positivity), Nat.div_eq_of_lt hcheck, add_zero]

theorem number_mod {bits : Nat} (h : bits ≤ 8) (entropy : Bytes) :
    number bits entropy % 2 ^ bits = checkBits bits entropy := by
  have hcheck := checkBits_lt h entropy
  rw [number, Nat.mul_comm, Nat.mul_add_mod, Nat.mod_eq_of_lt hcheck]

/-- Eleven bits for each of three words are eight for each of four bytes and the bit that checks. -/
theorem pow_words (bits : Nat) : 2048 ^ (3 * bits) = 256 ^ (4 * bits) * 2 ^ bits := by
  have h2048 : 2048 = 2 ^ 11 := by norm_num
  have h256 : 256 = 2 ^ 8 := by norm_num
  rw [h2048, h256, ← pow_mul, ← pow_mul, ← pow_add]
  congr 1
  omega

theorem number_lt {bits : Nat} (h : bits ≤ 8) {entropy : Bytes}
    (hlength : entropy.length = 4 * bits) : number bits entropy < 2048 ^ (3 * bits) := by
  have hcheck := checkBits_lt h entropy
  have hentropy := Bytes.toNatBE_lt entropy
  rw [pow_words, ← hlength]
  rw [number]
  nlinarith

/-- The counts of words are multiples of three. -/
theorem mem_wordCounts_iff {count : Nat} :
    count ∈ wordCounts ↔ ∃ bits, count = 3 * bits ∧ 4 ≤ bits ∧ bits ≤ 8 := by
  simp only [wordCounts, List.mem_cons, List.not_mem_nil, or_false]
  constructor
  · intro h
    exact ⟨count / 3, by omega, by omega, by omega⟩
  · rintro ⟨bits, rfl, hlow, hhigh⟩
    omega

/-- The phrases of entropy of all lengths that have one. -/
theorem ofEntropy_eq_ok_iff {entropy : Bytes} {p : StandardPhrase} :
    ofEntropy entropy = .ok p ↔ ∃ bits, 4 ≤ bits ∧ bits ≤ 8 ∧ entropy.length = 4 * bits ∧
      p = ⟨(Radix.digits 2048 (3 * bits) (number bits entropy)).map EnglishWords.word,
        entropy⟩ := by
  unfold ofEntropy
  simp only
  constructor
  · intro h
    split at h
    · rename_i hlength
      obtain ⟨bits, hbits, hlow, hhigh⟩ := mem_wordCounts_iff.mp hlength.2
      have hquarter : entropy.length / 4 = bits := by omega
      rw [hquarter] at h hlength
      cases h
      exact ⟨bits, hlow, hhigh, hlength.1, rfl⟩
    · cases h
  · rintro ⟨bits, hlow, hhigh, hlength, rfl⟩
    have hquarter : entropy.length / 4 = bits := by omega
    rw [hquarter, if_pos ⟨hlength, mem_wordCounts_iff.mpr ⟨bits, rfl, hlow, hhigh⟩⟩]
    rfl

/-! ## Words of entropy -/

/-- The words of some entropy are words of the list, and stand for its number. -/
theorem words_of_ofEntropy {entropy : Bytes} {p : StandardPhrase} (h : ofEntropy entropy = .ok p) :
    ∃ bits indices, 4 ≤ bits ∧ bits ≤ 8 ∧ p.entropy = entropy ∧ entropy.length = 4 * bits ∧
      p.words.length = 3 * bits ∧ p.words.mapM EnglishWords.index? = some indices ∧
      Radix.value 2048 indices = number bits entropy := by
  obtain ⟨bits, hlow, hhigh, hlength, rfl⟩ := ofEntropy_eq_ok_iff.mp h
  have hlt : number bits entropy < 2048 ^ (3 * bits) := number_lt hhigh hlength
  refine ⟨bits, Radix.digits 2048 (3 * bits) (number bits entropy), hlow, hhigh, rfl, hlength,
    by simp, ?_, ?_⟩
  · rw [EnglishWords.mapM_index?_eq_some_iff]
    exact ⟨fun i hi => Radix.lt_of_mem_digits (by decide) hi, rfl⟩
  · rw [Radix.value_digits, Nat.mod_eq_of_lt hlt]

/-- Words of the list that stand for the number of some entropy are its words. -/
theorem ofEntropy_of_value {bits : Nat} {words : List String} {indices : List Nat} {entropy : Bytes}
    (hlow : 4 ≤ bits) (hhigh : bits ≤ 8) (hlength : entropy.length = 4 * bits)
    (hcount : words.length = 3 * bits) (hindices : words.mapM EnglishWords.index? = some indices)
    (hvalue : Radix.value 2048 indices = number bits entropy) :
    ofEntropy entropy = .ok ⟨words, entropy⟩ := by
  obtain ⟨hlt, rfl⟩ := EnglishWords.mapM_index?_eq_some_iff.mp hindices
  rw [List.length_map] at hcount
  rw [ofEntropy_eq_ok_iff]
  refine ⟨bits, hlow, hhigh, hlength, ?_⟩
  rw [← hvalue, ← hcount, Radix.digits_value hlt]

/-- A number is that of its leading bits if the others check them. -/
theorem eq_number {bits n : Nat} {entropy : Bytes} (hn : n < 2048 ^ (3 * bits))
    (hentropy : entropy = Bytes.ofNatBE (4 * bits) (n / 2 ^ bits))
    (hcheck : n % 2 ^ bits = checkBits bits entropy) : n = number bits entropy := by
  have hlt : n / 2 ^ bits < 256 ^ (4 * bits) := by
    rw [pow_words, Nat.mul_comm] at hn
    exact Nat.div_lt_of_lt_mul hn
  have hvalue : Bytes.toNatBE entropy = n / 2 ^ bits := by
    rw [hentropy, Bytes.toNatBE_ofNatBE, Nat.mod_eq_of_lt hlt]
  rw [number, hvalue, ← hcheck, Nat.div_add_mod']

/-- What is read from a text is the phrase of its entropy, in the parts of the text. -/
theorem ofText_eq_ok_iff {text : List Char} {p : StandardPhrase} :
    ofText text = .ok p ↔ ofEntropy p.entropy = .ok p ∧ p.words = parts text := by
  simp only [ofText, Nat.pow_eq]
  constructor
  · intro h
    split at h
    · cases h
    · rename_i indices hindices
      split at h
      · rename_i hcount
        obtain ⟨bits, hbits, hlow, hhigh⟩ := mem_wordCounts_iff.mp hcount
        have hthird : (parts text).length / 3 = bits := by omega
        rw [hthird] at h
        split at h
        · rename_i hcheck
          cases h
          obtain ⟨hlt, hmap⟩ := EnglishWords.mapM_index?_eq_some_iff.mp hindices
          have hindexCount : indices.length = 3 * bits := by
            rw [← hbits, ← hmap, List.length_map]
          have hvalue := Radix.value_lt hlt
          rw [hindexCount] at hvalue
          have hlength := Bytes.length_ofNatBE (4 * bits) (Radix.value 2048 indices / 2 ^ bits)
          exact ⟨ofEntropy_of_value hlow hhigh hlength hbits hindices
            (eq_number hvalue rfl hcheck), rfl⟩
        · cases h
      · cases h
  · rintro ⟨hentropy, hwords⟩
    obtain ⟨bits, indices, hlow, hhigh, -, hlength, hcount, hindices, hvalue⟩ :=
      words_of_ofEntropy hentropy
    rw [hwords] at hcount hindices
    have hcounts := mem_wordCounts_iff.mpr ⟨bits, hcount, hlow, hhigh⟩
    have hthird : (parts text).length / 3 = bits := by omega
    have hbytes := Bytes.ofNatBE_toNatBE p.entropy
    rw [hlength] at hbytes
    simp only [hindices, if_pos hcounts, hthird, hvalue, number_div hhigh, number_mod hhigh, hbytes,
      if_true]
    rw [← hwords]

/-! ## Phrases as text -/

variable {p : StandardPhrase}

theorem mem_all_of_ofEntropy {entropy : Bytes} (h : ofEntropy entropy = .ok p) :
    ∀ w ∈ p.words, w ∈ EnglishWords.all := by
  obtain ⟨bits, indices, -, -, -, -, -, hindices, -⟩ := words_of_ofEntropy h
  obtain ⟨hlt, hmap⟩ := EnglishWords.mapM_index?_eq_some_iff.mp hindices
  intro w hw
  rw [← hmap] at hw
  obtain ⟨i, hi, rfl⟩ := List.mem_map.mp hw
  exact EnglishWords.word_mem (hlt i hi)

/-- The parts of words with blanks between them are decomposed words. -/
theorem parts_join {ws : List (List Char)} (h : ∀ w ∈ ws, Text.IsWord w) :
    parts (Text.join [' '] ws) =
      (Text.pieces ' ' (Text.join [' '] (ws.map Text.decomposeChars))).map String.ofList := by
  rw [parts, Text.wordsAfter_join h]

/-- Words of the list are parts as they are. -/
theorem parts_of_mem_all {ws : List String} (hne : ws ≠ []) (h : ∀ w ∈ ws, w ∈ EnglishWords.all) :
    parts (Text.join [' '] (ws.map String.toList)) = ws := by
  have hword : ∀ w ∈ ws.map String.toList, Text.IsWord w := by
    simpa using fun w hw => EnglishWords.isWord_of_mem (h w hw)
  have hsame : (ws.map String.toList).map Text.decomposeChars = ws.map String.toList := by
    rw [List.map_map]
    exact List.map_congr_left fun w hw =>
      Text.decomposeChars_of_isAscii (EnglishWords.ascii_of_mem (h w hw))
  have hspace : ∀ w ∈ ws.map String.toList, ' ' ∉ w := by
    intro w hw hmem
    have hblank := (hword w hw).not_blank ' ' hmem
    cases hblank
  rw [parts_join hword, hsame, Text.pieces_join (by simpa using hne) hspace, List.map_map]
  exact (List.map_congr_left fun w _ => String.ofList_toList).trans (List.map_id _)

/-- A phrase is read from its text. -/
theorem ofText_text {entropy : Bytes} (h : ofEntropy entropy = .ok p) : ofText p.text = .ok p := by
  obtain ⟨bits, indices, hlow, -, hentropy, -, hcount, -, -⟩ := words_of_ofEntropy h
  have hne : p.words ≠ [] := by
    intro hnil
    rw [hnil, List.length_nil] at hcount
    omega
  rw [ofText_eq_ok_iff, text, parts_of_mem_all hne (mem_all_of_ofEntropy h)]
  exact ⟨hentropy ▸ h, rfl⟩

/-- Words whose parts are all in the list are in ASCII when they are decomposed. -/
theorem isAscii_of_parts {ws : List (List Char)} (hword : ∀ w ∈ ws, Text.IsWord w)
    (h : ∀ part ∈ parts (Text.join [' '] ws), part ∈ EnglishWords.all) :
    ∀ w ∈ ws.map Text.decomposeChars, Text.IsAscii w := by
  rw [parts_join hword] at h
  intro w hw c hc
  have hjoined : c ∈ Text.join [' '] (ws.map Text.decomposeChars) := Text.mem_join_of_mem hw hc
  rw [← Text.join_pieces ' ' (Text.join [' '] _)] at hjoined
  obtain rfl | ⟨part, hpart, hc⟩ := Text.mem_join hjoined
  · decide
  · apply EnglishWords.ascii_of_mem (h _ (List.mem_map_of_mem hpart))
    rwa [String.toList_ofList]

/-- Each word that is in ASCII when it is decomposed is one part. -/
theorem parts_of_isAscii {ws : List (List Char)} (hne : ws ≠ []) (hword : ∀ w ∈ ws, Text.IsWord w)
    (hascii : ∀ w ∈ ws.map Text.decomposeChars, Text.IsAscii w) :
    parts (Text.join [' '] ws) = (ws.map Text.decomposeChars).map String.ofList := by
  have hspace : ∀ w ∈ ws.map Text.decomposeChars, ' ' ∉ w := by
    intro w hw
    obtain ⟨v, hv, rfl⟩ := List.mem_map.mp hw
    exact Text.space_not_mem_of_isAscii (hword v hv).not_blank (hascii _ hw)
  rw [parts_join hword, Text.pieces_join (by simpa using hne) hspace]

/-- A phrase that is read from words has as many words as were given. -/
theorem length_words_of_ofText {ws : List (List Char)} (hne : ws ≠ [])
    (hword : ∀ w ∈ ws, Text.IsWord w) (h : ofText (Text.join [' '] ws) = .ok p) :
    p.words.length = ws.length := by
  obtain ⟨hentropy, hparts⟩ := ofText_eq_ok_iff.mp h
  have hascii := isAscii_of_parts hword (hparts ▸ mem_all_of_ofEntropy hentropy)
  rw [hparts, parts_of_isAscii hne hword hascii, List.length_map, List.length_map]

theorem ofWords_eq_ok_iff {ws : List String} :
    ofWords ws = .ok p ↔ ofText (Text.join [' '] (ws.map String.toList)) = .ok p := by
  unfold ofWords
  split
  · rename_i found hfound
    rw [hfound, Except.ok.injEq, Except.ok.injEq]
  · rename_i hfound
    simp [hfound]
  · rename_i hfound
    simp [hfound]
  · rename_i hfound
    rw [hfound]
    split <;> simp

end HbarKit.StandardPhrase
