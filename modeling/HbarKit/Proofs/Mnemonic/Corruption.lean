import HbarKit.Proofs.Bytes.Numbers
import HbarKit.Proofs.Mnemonic.LegacyPhrase

/-!
# Corrupted phrases of the old kind

The register of the check runs through a linear map that loses nothing. One changed byte of what is
checked therefore changes the check byte. A changed check byte is another matter, since it is added
to all bytes that are checked: there the change of the register is that of thirty-two equal bytes,
and it never equals the byte.
-/
namespace HbarKit

/-- Two byte strings of one length that differ in exactly one byte. -/
def Bytes.DiffersOnce (a b : Bytes) : Prop :=
  ∃ front x y back, x ≠ y ∧ a = front ++ x :: back ∧ b = front ++ y :: back

namespace Crc

/-! ## The register -/

/-- The lowest bit of a byte is clear or set. -/
theorem low_eq (a : UInt8) : a &&& 1 = 0 ∨ a &&& 1 = 1 := Bytes.bit_eq a (i := 0) (by decide)

theorem shift_xor (a b : UInt8) : shift (a ^^^ b) = shift a ^^^ shift b := by
  rw [shift, shift, shift, UInt8.shiftRight_xor, Bytes.xor_and]
  obtain ha | ha := low_eq a <;> obtain hb | hb := low_eq b
  · simp [ha, hb]
  · simp [ha, hb, UInt8.xor_assoc]
  · simp [ha, hb, UInt8.xor_assoc, UInt8.xor_comm (b >>> 1)]
  · have hcancel (x y : UInt8) : x ^^^ 0xb2 ^^^ (y ^^^ 0xb2) = x ^^^ y := by
      rw [UInt8.xor_comm y, UInt8.xor_assoc, ← UInt8.xor_assoc 0xb2, UInt8.xor_self,
        UInt8.zero_xor]
    simp [ha, hb, hcancel]

/-- Shifting loses nothing, as the polynomial has its highest bit set. -/
theorem shift_eq_zero {a : UInt8} (h : shift a = 0) : a = 0 := by
  have hlow := Bytes.toNat_low a
  have hhalf : (a >>> 1).toNat = a.toNat / 2 := UInt8.toNat_shiftRight a 1
  have hlt := a.toNat_lt
  rw [shift, UInt8.xor_eq_zero_iff] at h
  have hshifted := congrArg UInt8.toNat h
  by_cases hset : a &&& 1 = 1
  · have hpolynomial : a.toNat / 2 = 0xb2 := by rwa [if_pos hset, hhalf] at hshifted
    omega
  · have hzero : a.toNat / 2 = 0 := by rwa [if_neg hset, hhalf] at hshifted
    have hclear : (a &&& 1).toNat ≠ 1 := fun hone => hset (UInt8.toNat_inj.mp hone)
    apply UInt8.toNat_inj.mp
    change _ = 0
    omega

theorem shift_injective : Function.Injective shift := by
  intro a b h
  have hzero : shift (a ^^^ b) = 0 := by rw [shift_xor, h, UInt8.xor_self]
  exact UInt8.xor_eq_zero_iff.mp (shift_eq_zero hzero)

/-- Shifts in a row are as linear as one. -/
theorem repeat_shift_xor (n : Nat) (a b : UInt8) :
    Nat.repeat shift n (a ^^^ b) = Nat.repeat shift n a ^^^ Nat.repeat shift n b := by
  induction n with
  | zero => rfl
  | succ n ih => rw [Nat.repeat, Nat.repeat, Nat.repeat, ih, shift_xor]

theorem repeat_shift_injective (n : Nat) : Function.Injective (Nat.repeat shift n) := by
  induction n with
  | zero => exact Function.injective_id
  | succ n ih => exact shift_injective.comp ih

theorem step_xor (r s x y : UInt8) : step (r ^^^ s) (x ^^^ y) = step r x ^^^ step s y := by
  have hsum : r ^^^ s ^^^ (x ^^^ y) = r ^^^ x ^^^ (s ^^^ y) := by
    rw [UInt8.xor_assoc, UInt8.xor_assoc, ← UInt8.xor_assoc s, UInt8.xor_comm s, UInt8.xor_assoc]
  rw [step, step, step, hsum, repeat_shift_xor]

theorem step_inj {r s x y : UInt8} : step r x = step s y ↔ r ^^^ x = s ^^^ y :=
  (repeat_shift_injective 8).eq_iff

/-! ## Changed bytes -/

/-- What a register holds shows to the end. -/
theorem foldl_step_injective (b : Bytes) : Function.Injective fun r => b.foldl step r := by
  induction b with
  | nil => exact Function.injective_id
  | cons x b ih =>
    intro r s h
    have hstep : step r x = step s x := ih h
    exact (UInt8.xor_left_inj x).mp (step_inj.mp hstep)

/-- One changed byte changes the check byte. -/
theorem check_ne_of_ne {x y : UInt8} (h : x ≠ y) (front back : Bytes) :
    check (front ++ x :: back) ≠ check (front ++ y :: back) := by
  intro hcheck
  have hregister := (UInt8.xor_left_inj 0xff).mp hcheck
  rw [List.foldl_append, List.foldl_append, List.foldl_cons, List.foldl_cons] at hregister
  have hstep := foldl_step_injective back hregister
  exact h ((UInt8.xor_right_inj _).mp (step_inj.mp hstep))

/-- The register is linear in what it starts with and in the bytes of a string, taken together. -/
theorem foldl_step_zipWith_xor {a b : Bytes} (h : a.length = b.length) (r s : UInt8) :
    (List.zipWith (· ^^^ ·) a b).foldl step (r ^^^ s) = a.foldl step r ^^^ b.foldl step s := by
  induction a generalizing b r s with
  | nil =>
    obtain rfl := List.length_eq_zero_iff.mp h.symm
    rfl
  | cons x a ih =>
    obtain ⟨y, b, rfl⟩ := List.exists_cons_of_length_eq_add_one h.symm
    rw [List.zipWith_cons_cons, List.foldl_cons, step_xor, ih (Nat.succ.inj h), List.foldl_cons,
      List.foldl_cons]

/-- A byte that is added to all bytes of a string changes the check byte by what that byte alone,
so many times, leaves in the register. -/
theorem check_map_xor (b : Bytes) (d : UInt8) :
    check (b.map (· ^^^ d)) = check b ^^^ (List.replicate b.length d).foldl step 0 := by
  have hmap : b.map (· ^^^ d) = List.zipWith (· ^^^ ·) b (List.replicate b.length d) := by
    induction b with
    | nil => rfl
    | cons x b ih =>
      rw [List.map_cons, ih, List.length_cons, List.replicate_succ, List.zipWith_cons_cons]
  have hlength : b.length = (List.replicate b.length d).length := List.length_replicate.symm
  have hregister := foldl_step_zipWith_xor hlength 0xff 0
  rw [UInt8.xor_zero, ← hmap] at hregister
  rw [check, check, hregister, UInt8.xor_assoc, UInt8.xor_comm _ 0xff, UInt8.xor_assoc]

/-! ## Thirty-two equal bytes -/

/-- Thirty-two equal bytes leave the byte itself in the register, plus what shifting a hundred and
thirty-six bits out of it gives. -/
theorem foldl_step_replicate (d : UInt8) :
    (List.replicate 32 d).foldl step 0 = d ^^^ Nat.repeat shift 136 d := by
  refine Bytes.forall_of_bits (p := fun d =>
    (List.replicate 32 d).foldl step 0 = d ^^^ Nat.repeat shift 136 d) ?_ (by decide +kernel) d
  intro a b ha hb
  have hlength : (List.replicate 32 a).length = (List.replicate 32 b).length := rfl
  have hsum := foldl_step_zipWith_xor hlength 0 0
  rw [List.zipWith_replicate, UInt8.xor_self, ha, hb] at hsum
  rw [repeat_shift_xor]
  refine hsum.trans ?_
  rw [UInt8.xor_assoc, UInt8.xor_assoc, ← UInt8.xor_assoc _ b, UInt8.xor_comm _ b, UInt8.xor_assoc]

/-- No byte but zero is what thirty-two of it leave in the register. -/
theorem foldl_step_replicate_ne {d : UInt8} (h : d ≠ 0) :
    (List.replicate 32 d).foldl step 0 ≠ d := by
  rw [foldl_step_replicate]
  intro hsame
  have hshifted : Nat.repeat shift 136 d = 0 :=
    (UInt8.xor_right_inj d).mp (hsame.trans UInt8.xor_zero.symm)
  have hzero : Nat.repeat shift 136 0 = 0 := by
    have hsame := repeat_shift_xor 136 0 0
    rwa [UInt8.xor_self, UInt8.xor_self] at hsame
  exact h (repeat_shift_injective 136 (hshifted.trans hzero.symm))

end Crc

namespace LegacyTable

variable {t : LegacyTable}

/-! ## Sealed entropy -/

/-- What is sealed ends with the check byte of the bytes before it, which it was added to. -/
theorem check_of_append_eq_sealed {front : Bytes} {x : UInt8} {entropy : Octets 32}
    (h : front ++ [x] = sealed entropy) :
    front.length = 32 ∧ Crc.check (front.map (· ^^^ x)) = x := by
  obtain ⟨rfl, hx⟩ := List.append_inj' h rfl
  obtain rfl := List.singleton_inj.mp hx
  rw [map_xor_map_xor]
  exact ⟨(List.length_map _).trans entropy.length_eq, rfl⟩

/-- With another check byte in the place of the right one, all the other bytes change as well. -/
theorem append_ne_sealed_of_last {front : Bytes} {x y : UInt8} {entropy entropy' : Octets 32}
    (hx : front ++ [x] = sealed entropy) (hne : x ≠ y) : front ++ [y] ≠ sealed entropy' := by
  intro hy
  obtain ⟨hfront, hcheck⟩ := check_of_append_eq_sealed hx
  obtain ⟨-, hcheck'⟩ := check_of_append_eq_sealed hy
  have hmask : front.map (· ^^^ y) = (front.map (· ^^^ x)).map (· ^^^ (x ^^^ y)) := by
    rw [List.map_map]
    apply List.map_congr_left
    intro z _
    rw [Function.comp_apply, UInt8.xor_assoc, ← UInt8.xor_assoc x, UInt8.xor_self, UInt8.zero_xor]
  rw [hmask, Crc.check_map_xor, hcheck, List.length_map, hfront] at hcheck'
  have hdifference : x ^^^ y ≠ 0 := fun hzero => hne (UInt8.xor_eq_zero_iff.mp hzero)
  apply Crc.foldl_step_replicate_ne hdifference
  rw [← UInt8.xor_right_inj x, hcheck', ← UInt8.xor_assoc, UInt8.xor_self, UInt8.zero_xor]

/-- Sealed entropy differs from other sealed entropy in more than one byte. -/
theorem not_differsOnce_sealed (entropy entropy' : Octets 32) :
    ¬ (sealed entropy).DiffersOnce (sealed entropy') := by
  rintro ⟨front, x, y, back, hne, hx, hy⟩
  obtain rfl | ⟨back, check, rfl⟩ := List.eq_nil_or_concat' back
  · exact append_ne_sealed_of_last hx.symm hne hy.symm
  · rw [← List.cons_append, ← List.append_assoc] at hx hy
    obtain ⟨-, hcheck⟩ := check_of_append_eq_sealed hx.symm
    obtain ⟨-, hcheck'⟩ := check_of_append_eq_sealed hy.symm
    rw [List.map_append, List.map_cons] at hcheck hcheck'
    have hmasked : x ^^^ check ≠ y ^^^ check := fun heq => hne ((UInt8.xor_left_inj check).mp heq)
    exact Crc.check_ne_of_ne hmasked _ _ (hcheck.trans hcheck'.symm)

/-! ## Phrases -/

/-- The places in the table of words that are all in it. -/
def placesOf (t : LegacyTable) (ws : List String) : List Nat := ws.map t.words.idxOf

theorem mapM_index_of_mem {ws : List String} (h : ∀ w ∈ ws, w ∈ t.words) :
    ws.mapM t.index = .ok (t.placesOf ws) := by
  apply mapM_eq_ok_of_forall₂
  rw [placesOf, List.forall₂_map_right_iff, List.forall₂_same]
  intro w hw
  have hplace := List.idxOf_lt_length_of_mem (h w hw)
  rw [index_eq_ok_iff, word, List.getD_eq_getElem _ _ hplace, List.getElem_idxOf]
  exact ⟨hplace.trans_eq t.length_eq, rfl⟩

/-- Twenty-two words of a table are refused for nothing but their check byte. -/
theorem decode_of_mem {ws : List String} (hlength : ws.length = phraseLength)
    (h : ∀ w ∈ ws, w ∈ t.words) :
    (∃ entropy, t.decode ws = .ok entropy) ∨ t.decode ws = .error .checksum := by
  simp only [decode, hlength, mapM_index_of_mem h, ne_eq, not_true_eq_false, if_false, bind,
    Except.bind, pure, Except.pure]
  split
  · exact .inl ⟨_, rfl⟩
  · exact .inr rfl

/-- Words that are accepted stand for a block that is sealed entropy. -/
theorem block_of_decode {ws : List String} {entropy : Octets 32} (hmem : ∀ w ∈ ws, w ∈ t.words)
    (h : t.decode ws = .ok entropy) : block (t.placesOf ws) = sealed entropy := by
  obtain ⟨-, places, hplaces, hblock⟩ := (t.decode_eq_ok_iff_sealed ws entropy).mp h
  rw [mapM_index_of_mem hmem] at hplaces
  rw [Except.ok.inj hplaces, hblock]

/-- Words of a table that stand for a block with one byte changed are refused for their check byte,
whichever of the thirty-three bytes it is. -/
theorem decode_of_differsOnce {ws ws' : List String} {entropy : Octets 32}
    (h : t.decode ws = .ok entropy) (hlength : ws'.length = 22) (hmem : ∀ w ∈ ws', w ∈ t.words)
    (hblock : (block (t.placesOf ws)).DiffersOnce (block (t.placesOf ws'))) :
    t.decode ws' = .error .checksum := by
  have hencode : ws = t.encode entropy := (t.decode_eq_ok_iff ws entropy).mp h
  have hlisted : ∀ w ∈ ws, w ∈ t.words := by
    intro w hw
    rw [hencode] at hw
    exact t.mem_words_of_mem_encode hw
  rw [block_of_decode hlisted h] at hblock
  obtain ⟨entropy', hdecode'⟩ | hrefused := decode_of_mem hlength hmem
  · rw [block_of_decode hmem hdecode'] at hblock
    exact absurd hblock (not_differsOnce_sealed entropy entropy')
  · exact hrefused

/-! ## A corrupted check byte -/

/-- The words that thirty-three bytes are written in. -/
def wordsOf (t : LegacyTable) (data : Bytes) : List String :=
  (Radix.convert 256 4096 phraseLength (data.map UInt8.toNat)).map t.word

theorem mem_wordsOf {data : Bytes} : ∀ w ∈ t.wordsOf data, w ∈ t.words := by
  intro w hw
  obtain ⟨i, hi, rfl⟩ := List.mem_map.mp hw
  exact t.word_mem_words (Radix.lt_of_mem_convert (by decide) hi)

theorem block_placesOf_wordsOf {data : Bytes} (h : data.length = 33) :
    block (t.placesOf (t.wordsOf data)) = data := by
  have hlt : ∀ i ∈ Radix.convert 256 4096 phraseLength (data.map UInt8.toNat), i < 4096 :=
    fun i => Radix.lt_of_mem_convert (by decide)
  have hplaces : t.placesOf (t.wordsOf data) =
      Radix.convert 256 4096 phraseLength (data.map UInt8.toNat) := by
    have hlisted := (t.mapM_index_eq_ok_iff (t.wordsOf data) _).mpr ⟨hlt, rfl⟩
    rw [mapM_index_of_mem mem_wordsOf] at hlisted
    exact Except.ok.inj hlisted
  rw [hplaces]
  exact (block_eq_iff (Radix.length_convert _ _ _ _) hlt h).mpr rfl

/-- The block of thirty-two zeros with a check byte that is wrong in its lowest bit. -/
theorem decode_of_differsOnce_checkByte :
    let zeros := Octets.ofNatBE 32 0
    let check := Crc.check zeros.bytes
    let data := zeros.bytes.map (· ^^^ check) ++ [check ^^^ 1]
    numerals.decode (numerals.encode zeros) = .ok zeros ∧
      (sealed zeros).DiffersOnce data ∧
      numerals.decode (numerals.wordsOf data) = .error .checksum := by
  intro zeros check data
  have hdecode := (numerals.decode_eq_ok_iff (numerals.encode zeros) zeros).mpr rfl
  have hne : check ≠ check ^^^ 1 := by
    intro h
    have hone : (0 : UInt8) = 1 := (UInt8.xor_right_inj check).mp (UInt8.xor_zero.trans h)
    exact absurd hone (by decide)
  have hdiffers : (sealed zeros).DiffersOnce data := ⟨_, check, check ^^^ 1, [], hne, rfl, rfl⟩
  refine ⟨hdecode, hdiffers, decode_of_differsOnce hdecode ?_ mem_wordsOf ?_⟩
  · exact (List.length_map _).trans (Radix.length_convert _ _ _ _)
  · rw [block_placesOf_wordsOf (by simp [data, zeros.length_eq])]
    have hencode : numerals.encode zeros = numerals.wordsOf (sealed zeros) := rfl
    rw [hencode, block_placesOf_wordsOf (length_sealed zeros)]
    exact hdiffers

end LegacyTable

end HbarKit
