import HbarKit.Proofs.Mnemonic.StandardPhrase

/-!
# What words spell

Eleven bits for each word of a phrase are the bits of its entropy, eight for each byte, and behind
them leading bits of the digest of the entropy. Words and bytes meet within a byte, so both sides
are compared as one number.
-/
namespace HbarKit

/-- The bits of some numbers in a row, equally many for each and the highest first. -/
def Radix.bits (width : Nat) (ns : List Nat) : List Nat := ns.flatMap (digits 2 width)

namespace StandardPhrase

/-- The bits of bytes. -/
def byteBits (b : Bytes) : List Nat := Radix.bits 8 (b.map UInt8.toNat)

/-- The bits of words of the list, which are those of their places. -/
def wordBits (words : List String) : List Nat := Radix.bits 11 (words.map EnglishWords.all.idxOf)

/-- Words of the list spell entropy if their bits are those of the entropy and, behind them, the
leading bits of its SHA-256 digest, one for each three words. -/
structure Spells (words : List String) (entropy : Bytes) : Prop where
  listed : ∀ w ∈ words, w ∈ EnglishWords.all
  length_eq : 3 * entropy.length = 4 * words.length
  bits_eq : wordBits words =
    byteBits entropy ++ (byteBits (Hash.sha256.digest entropy)).take (words.length / 3)

/-! ## Bits as numbers -/

theorem toNatBE_eq_value (b : Bytes) : Bytes.toNatBE b = Radix.value 256 (b.map UInt8.toNat) := by
  rw [Bytes.toNatBE, Radix.value, List.foldl_map]

theorem byteBits_eq (b : Bytes) :
    byteBits b = Radix.digits 2 (8 * b.length) (Bytes.toNatBE b) := by
  have h256 : 256 = 2 ^ 8 := by norm_num
  have hlt : ∀ n ∈ b.map UInt8.toNat, n < 2 ^ 8 := by
    simpa using fun x _ => x.toNat_lt
  rw [byteBits, Radix.bits, Radix.flatMap_digits hlt, List.length_map, toNatBE_eq_value, ← h256]

/-- The leading bits of a digest are the number that checks the entropy. -/
theorem take_byteBits_digest {bits : Nat} (h : bits ≤ 8) (entropy : Bytes) :
    (byteBits (Hash.sha256.digest entropy)).take bits =
      Radix.digits 2 bits (checkBits bits entropy) := by
  obtain ⟨x, rest, hdigest⟩ :=
    List.exists_cons_of_length_eq_add_one (Hash.sha256.length_digest entropy)
  have hwidth : 8 = bits + (8 - bits) := by omega
  rw [hdigest, byteBits, Radix.bits, List.map_cons, List.flatMap_cons,
    List.take_append_of_le_length (by simpa using h)]
  nth_rewrite 1 [hwidth]
  rw [Radix.take_digits, checkBits, hdigest, List.headD_cons, Nat.pow_eq]

/-- The bits of entropy with those that check it are the digits of its number. -/
theorem digits_number {bits : Nat} (h : bits ≤ 8) (entropy : Bytes) :
    Radix.digits 2 (8 * entropy.length + bits) (number bits entropy) =
      byteBits entropy ++ (byteBits (Hash.sha256.digest entropy)).take bits := by
  rw [number, Radix.digits_append _ _ (checkBits_lt h entropy), byteBits_eq,
    take_byteBits_digest h]

/-! ## Places of words -/

theorem lt_of_mem_places {words : List String} (h : ∀ w ∈ words, w ∈ EnglishWords.all) :
    ∀ i ∈ words.map EnglishWords.all.idxOf, i < 2048 := by
  intro i hi
  obtain ⟨w, hw, rfl⟩ := List.mem_map.mp hi
  exact lt_of_lt_of_eq (List.idxOf_lt_length_of_mem (h w hw)) EnglishWords.length_all

/-- Words of the list are looked up to their places. -/
theorem mapM_index?_of_listed {words : List String} (h : ∀ w ∈ words, w ∈ EnglishWords.all) :
    words.mapM EnglishWords.index? = some (words.map EnglishWords.all.idxOf) := by
  refine EnglishWords.mapM_index?_eq_some_iff.mpr ⟨lt_of_mem_places h, ?_⟩
  rw [List.map_map]
  refine (List.map_congr_left ?_).trans (List.map_id _)
  intro w hw
  have hplace := List.idxOf_lt_length_of_mem (h w hw)
  exact (List.getD_eq_getElem _ _ hplace).trans (List.getElem_idxOf hplace)

theorem wordBits_eq {words : List String} (h : ∀ w ∈ words, w ∈ EnglishWords.all) :
    wordBits words =
      Radix.digits 2 (11 * words.length) (Radix.value 2048 (words.map EnglishWords.all.idxOf)) := by
  have h2048 : 2048 = 2 ^ 11 := by norm_num
  have hlt := lt_of_mem_places h
  rw [h2048] at hlt ⊢
  rw [wordBits, Radix.bits, Radix.flatMap_digits hlt, List.length_map]

/-- The bits of words agree with those of entropy exactly if the numbers do. -/
theorem bits_eq_iff {bits : Nat} {words : List String} {entropy : Bytes} (hhigh : bits ≤ 8)
    (hcount : words.length = 3 * bits) (hlength : entropy.length = 4 * bits)
    (hlisted : ∀ w ∈ words, w ∈ EnglishWords.all) :
    wordBits words =
        byteBits entropy ++ (byteBits (Hash.sha256.digest entropy)).take (words.length / 3) ↔
      Radix.value 2048 (words.map EnglishWords.all.idxOf) = number bits entropy := by
  have hthird : words.length / 3 = bits := by omega
  have hwidth : 8 * entropy.length + bits = 11 * words.length := by omega
  have hpow : 2 ^ (11 * words.length) = 2048 ^ words.length := pow_mul 2 11 words.length
  have hvalue := Radix.value_lt (lt_of_mem_places hlisted)
  have hnumber := number_lt hhigh hlength
  rw [List.length_map, ← hpow] at hvalue
  rw [← hcount, ← hpow] at hnumber
  rw [hthird, ← digits_number hhigh, wordBits_eq hlisted, hwidth, Radix.digits_inj hvalue hnumber]

/-! ## Words that spell -/

/-- The words that spell some entropy are those of its phrase. -/
theorem spells_iff {words : List String} {entropy : Bytes} (hcount : words.length ∈ wordCounts) :
    Spells words entropy ↔ ofEntropy entropy = .ok ⟨words, entropy⟩ := by
  obtain ⟨bits, hbits, hlow, hhigh⟩ := mem_wordCounts_iff.mp hcount
  constructor
  · rintro ⟨hlisted, hlength, hspelled⟩
    have hbytes : entropy.length = 4 * bits := by omega
    rw [bits_eq_iff hhigh hbits hbytes hlisted] at hspelled
    exact ofEntropy_of_value hlow hhigh hbytes hbits (mapM_index?_of_listed hlisted) hspelled
  · intro h
    have hlisted := mem_all_of_ofEntropy h
    obtain ⟨bits', indices, -, hhigh', -, hlength, hcount', hindices, hvalue⟩ :=
      words_of_ofEntropy h
    change words.length = 3 * bits' at hcount'
    have hplaces := (mapM_index?_of_listed hlisted).symm.trans hindices
    rw [← Option.some.inj hplaces] at hvalue
    exact ⟨hlisted, by omega, (bits_eq_iff hhigh' hcount' hlength hlisted).mpr hvalue⟩

end StandardPhrase

end HbarKit
