import HbarKit.Mnemonic.Phrase
import HbarKit.Proofs.Except
import HbarKit.Proofs.Mnemonic.Radix
import HbarKit.Proofs.Text.Words

/-!
# Phrases of the old kind and what they stand for

Sealed entropy is entropy with its check byte, and 33 bytes have as many values as 22 places in a
table. So every entropy is written in words, and the words that are accepted are those that some
entropy is written in.
-/
namespace HbarKit.LegacyTable

/-! ## Words and places -/

theorem index_eq_ok_iff (t : LegacyTable) (w : String) (i : Nat) :
    t.index w = .ok i ↔ i < 4096 ∧ t.word i = w := by
  have hlookup : t.index w = .ok i ↔ t.words.idxOf? w = some i := by
    unfold index
    cases t.words.idxOf? w <;> simp
  rw [hlookup, Text.idxOf?_eq_some_iff_getD t.nodup, t.length_eq]
  rfl

/-- Words are looked up to places in the table, and these have the words. -/
theorem mapM_index_eq_ok_iff (t : LegacyTable) (ws : List String) (indices : List Nat) :
    ws.mapM t.index = .ok indices ↔ (∀ i ∈ indices, i < 4096) ∧ indices.map t.word = ws := by
  constructor
  · intro h
    have hall := forall₂_of_mapM_eq_ok h
    refine ⟨?_, map_eq_of_forall₂ (fun w i hi => ((t.index_eq_ok_iff w i).mp hi).2) hall⟩
    intro i hi
    obtain ⟨w, _, hw⟩ := exists_of_forall₂_of_mem hall hi
    exact ((t.index_eq_ok_iff w i).mp hw).1
  · rintro ⟨hlt, rfl⟩
    apply mapM_eq_ok_of_forall₂
    rw [List.forall₂_map_left_iff, List.forall₂_same]
    intro i hi
    exact (t.index_eq_ok_iff _ i).mpr ⟨hlt i hi, rfl⟩

/-! ## The check byte -/

/-- The bytes that words stand for: the entropy with its check byte added to every byte, and the
check byte behind it. -/
def sealed (entropy : Octets 32) : Bytes :=
  let check := Crc.check entropy.bytes
  entropy.bytes.map (· ^^^ check) ++ [check]

@[simp] theorem length_sealed (entropy : Octets 32) : (sealed entropy).length = 33 := by
  simp [sealed, entropy.length_eq]

theorem map_xor_map_xor (b : Bytes) (check : UInt8) :
    (b.map (· ^^^ check)).map (· ^^^ check) = b := by
  have hself : (· ^^^ check) ∘ (· ^^^ check) = (id : UInt8 → UInt8) := by
    funext x
    rw [Function.comp_apply, UInt8.xor_assoc, UInt8.xor_self, UInt8.xor_zero]
    rfl
  rw [List.map_map, hself, List.map_id]

/-- What is sealed is found again, and nothing but what is sealed has its own check byte. -/
theorem eq_sealed_iff {data : Bytes} (h : data.length = 33) (entropy : Octets 32) :
    data = sealed entropy ↔
      (data.take 32).map (· ^^^ data.getD 32 0) = entropy.bytes ∧
        Crc.check entropy.bytes = data.getD 32 0 := by
  constructor
  · rintro rfl
    have hfront : (entropy.bytes.map (· ^^^ Crc.check entropy.bytes)).length = 32 := by
      simp [entropy.length_eq]
    have hlast : (sealed entropy).getD 32 0 = Crc.check entropy.bytes := by
      simp [sealed, entropy.length_eq]
    refine ⟨?_, hlast.symm⟩
    rw [hlast, sealed, List.take_left' hfront, map_xor_map_xor]
  · rintro ⟨hentropy, hcheck⟩
    have hdata : data.take 32 ++ [data.getD 32 0] = data := by
      have hrest : data.drop 32 = [data.getD 32 0] := by
        rw [List.drop_eq_getElem_cons (by omega), List.getD_eq_getElem _ _ (by omega),
          List.drop_eq_nil_of_le (by omega)]
      rw [← hrest, List.take_append_drop]
    rw [sealed, hcheck, ← hentropy, map_xor_map_xor, hdata]

/-! ## Phrases -/

/-- Thirty-three bytes have as many values as twenty-two words. -/
theorem pow_bytes_eq_pow_words : 256 ^ 33 = 4096 ^ phraseLength := by
  norm_num [phraseLength]

/-- The places that 33 bytes are converted to stand for these bytes, and no other places do. -/
theorem block_eq_iff {indices : List Nat} (hlength : indices.length = phraseLength)
    (hlt : ∀ i ∈ indices, i < 4096) {data : Bytes} (hdata : data.length = 33) :
    block indices = data ↔
      indices = Radix.convert 256 4096 phraseLength (data.map UInt8.toNat) := by
  constructor
  · rintro rfl
    have hbytes : (block indices).map UInt8.toNat = Radix.convert 4096 256 33 indices := by
      rw [block, List.map_map]
      refine (List.map_congr_left ?_).trans (List.map_id _)
      intro d hd
      exact UInt8.toNat_ofNat_of_lt (Radix.lt_of_mem_convert (by decide) hd)
    have hfits : 4096 ^ indices.length ≤ 256 ^ 33 := by
      rw [hlength, pow_bytes_eq_pow_words]
    have hback := Radix.convert_convert (Nat.succ_pos 255) hlt hfits
    rw [hbytes, ← hlength, hback]
  · intro hindices
    have hlt' : ∀ d ∈ data.map UInt8.toNat, d < 256 := by
      intro d hd
      obtain ⟨x, _, rfl⟩ := List.mem_map.mp hd
      exact x.toNat_lt
    have hfits : 256 ^ (data.map UInt8.toNat).length ≤ 4096 ^ phraseLength := by
      rw [List.length_map, hdata, pow_bytes_eq_pow_words]
    have hback := Radix.convert_convert (by decide) hlt' hfits
    rw [List.length_map, hdata] at hback
    rw [block, hindices, hback, List.map_map]
    exact (List.map_congr_left fun x _ => UInt8.ofNat_toNat).trans (List.map_id _)

/-- Words are accepted if the bytes that their places stand for are sealed entropy. -/
theorem decode_eq_ok_iff_sealed (t : LegacyTable) (ws : List String) (entropy : Octets 32) :
    t.decode ws = .ok entropy ↔
      ws.length = phraseLength ∧
        ∃ indices, ws.mapM t.index = .ok indices ∧ block indices = sealed entropy := by
  by_cases hlength : ws.length = phraseLength
  · simp only [decode, hlength, ne_eq, not_true_eq_false, if_false, true_and]
    rw [bind_eq_ok]
    refine exists_congr fun indices => and_congr_right fun _ => ?_
    have hblock : (block indices).length = 33 := by simp [block]
    refine Iff.trans ?_ (eq_sealed_iff hblock entropy).symm
    split
    · rename_i hcheck
      refine (Except.ok.injEq _ _).to_iff.trans (Octets.mk_eq_iff.trans ?_)
      constructor
      · intro hentropy
        exact ⟨hentropy, hentropy ▸ hcheck⟩
      · exact And.left
    · rename_i hcheck
      constructor
      · intro h
        cases h
      · rintro ⟨hentropy, hsealed⟩
        rw [hentropy] at hcheck
        exact absurd hsealed hcheck
  · simp [decode, hlength, throw, throwThe, MonadExceptOf.throw, bind, Except.bind]

/-- The words that are accepted for some entropy are the words that it is written in. -/
theorem decode_eq_ok_iff (t : LegacyTable) (ws : List String) (entropy : Octets 32) :
    t.decode ws = .ok entropy ↔ ws = t.encode entropy := by
  rw [decode_eq_ok_iff_sealed]
  constructor
  · rintro ⟨hlength, indices, hindices, hblock⟩
    obtain ⟨hlt, rfl⟩ := (t.mapM_index_eq_ok_iff ws indices).mp hindices
    rw [List.length_map] at hlength
    rw [(block_eq_iff hlength hlt (length_sealed entropy)).mp hblock]
    rfl
  · intro h
    have hlt : ∀ i ∈ Radix.convert 256 4096 phraseLength ((sealed entropy).map UInt8.toNat),
        i < 4096 := fun i hi => Radix.lt_of_mem_convert (by decide) hi
    have hindices := (t.mapM_index_eq_ok_iff (t.encode entropy) _).mpr ⟨hlt, rfl⟩
    rw [h]
    refine ⟨by simp [encode], _, hindices, ?_⟩
    exact (block_eq_iff (Radix.length_convert _ _ _ _) hlt (length_sealed entropy)).mpr rfl

end HbarKit.LegacyTable
