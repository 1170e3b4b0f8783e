import HbarKit.Der.Algorithm
import HbarKit.Proofs.Bytes.Numbers

/-!
# Reading written elements

A reader takes what was written for it from the front of what is left and leaves the rest. Most
elements are read in front of any rest; a part that may be left out is noticed to be missing where
nothing is left. The law of a document follows from the laws of its elements.
-/
namespace HbarKit.Der

variable {α β : Type} {rest : Bytes}

/-- In front of `rest`, a reader takes these bytes and gives this value. -/
def Takes (r : Reader α) (b rest : Bytes) (a : α) : Prop :=
  ∀ position offset, r ⟨position, offset, b ++ rest⟩ =
    .ok (a, ⟨position + b.length, offset + b.length, rest⟩)

theorem takes_pure (a : α) : Takes (pure a) [] rest a := fun _ _ => rfl

/-- One reader after another takes what is written for both. -/
theorem Takes.bind {r : Reader α} {f : α → Reader β} {b c : Bytes} {a : α} {a' : β}
    (h : Takes r b (c ++ rest) a) (hf : Takes (f a) c rest a') :
    Takes (r >>= f) (b ++ c) rest a' := by
  intro position offset
  have hbind : (r >>= f) ⟨position, offset, b ++ c ++ rest⟩ =
      r ⟨position, offset, b ++ c ++ rest⟩ >>= fun p => f p.1 p.2 := rfl
  rw [hbind, List.append_assoc, h]
  change f a _ = _
  rw [hf, List.length_append, Nat.add_assoc, Nat.add_assoc]

/-- The first of two readers takes all. -/
theorem Takes.last {r : Reader α} {f : α → Reader β} {b : Bytes} {a : α} {a' : β}
    (h : Takes r b rest a) (hf : Takes (f a) [] rest a') : Takes (r >>= f) b rest a' := by
  have hboth := Takes.bind (c := []) h hf
  rwa [List.append_nil] at hboth

/-- The first of two readers takes nothing. -/
theorem Takes.after {r : Reader α} {f : α → Reader β} {b : Bytes} {a : α} {a' : β}
    (h : Takes r [] (b ++ rest) a) (hf : Takes (f a) b rest a') : Takes (r >>= f) b rest a' :=
  Takes.bind h hf

/-- What is not refused is read. -/
theorem Takes.unless {p : Prop} [Decidable p] {cause : Cause} {f : Unit → Reader α}
    {r : Reader α} {b : Bytes} {a : α} (hp : ¬ p) (h : Takes r b rest a) :
    Takes (if p then refuse cause >>= f else r) b rest a := by
  rwa [if_neg hp]

/-! ## Tags and lengths -/

theorem takes_byte (x : UInt8) : Takes byte [x] rest x := fun _ _ => rfl

theorem takes_take (b : Bytes) : Takes (take b.length) b rest b := by
  intro position offset
  simp [take, Cursor.skip]

theorem takes_rest (b : Bytes) : Takes Der.rest b [] b := by
  intro position offset
  simp [Der.rest, Cursor.skip]

theorem takes_checkTag {tag : UInt8} (h : isTag tag = true) : Takes (checkTag tag) [] rest () := by
  simp only [checkTag, h]
  exact takes_pure ()

theorem takes_bigEndian (b : Bytes) (value : Nat) :
    Takes (bigEndian b.length value) b rest
      (b.foldl (fun n x => n * 256 + x.toNat) value) := by
  induction b generalizing value with
  | nil => exact takes_pure value
  | cons x b ih => exact Takes.bind (takes_byte x) (ih _)

/-- Every length that is written is written in the shortest way. -/
theorem takes_length (tag : UInt8) {n : Nat} (h : n < 65536) :
    Takes (length tag) (encodeLength n) rest n := by
  have hcount : ∀ (b : Bytes) (m : Nat), b.foldl (fun n x => n * 256 + x.toNat) 0 = m →
      Takes (bigEndian b.length 0) b rest m := fun b m hm => hm ▸ takes_bigEndian b 0
  have hsize : UInt8.size = 256 := rfl
  have hmax : ¬ maxLength < n := by
    have : maxLength = 268435455 := rfl
    omega
  by_cases hshort : n < 0x80
  · rw [encodeLength, if_pos hshort]
    have hbyte : (UInt8.ofNat n).toNat = n := UInt8.toNat_ofNat_of_lt' (by omega)
    have hlt : UInt8.ofNat n < 0x80 := by
      rw [UInt8.lt_iff_toNat_lt, hbyte]
      exact hshort
    apply (takes_byte _).last
    rw [if_pos hlt, hbyte]
    exact takes_pure n
  · by_cases hone : n < 0x100
    · rw [encodeLength, if_neg hshort, if_pos hone]
      have hbyte : (UInt8.ofNat n).toNat = n := UInt8.toNat_ofNat_of_lt' (by omega)
      apply Takes.bind (c := [UInt8.ofNat n]) (takes_byte 0x81)
      apply (hcount [UInt8.ofNat n] n (by simp [hbyte])).last
      rw [if_neg hmax, if_neg (by simp; omega)]
      exact takes_pure n
    · rw [encodeLength, if_neg hshort, if_neg hone]
      have hnumber : (Bytes.ofNatBE 2 n).foldl (fun n x => n * 256 + x.toNat) 0 = n := by
        have hread := Bytes.toNatBE_ofNatBE 2 n
        rwa [Nat.mod_eq_of_lt (by omega)] at hread
      have htwo := hcount (Bytes.ofNatBE 2 n) n hnumber
      rw [Bytes.length_ofNatBE] at htwo
      apply Takes.bind (c := Bytes.ofNatBE 2 n) (takes_byte 0x82)
      apply htwo.last
      rw [if_neg hmax, if_neg (by simp; omega)]
      exact takes_pure n

theorem takes_header {tag : UInt8} (htag : isTag tag = true) {n : Nat} (h : n < 65536) :
    Takes header (tag :: encodeLength n) rest (tag, n) := by
  apply Takes.bind (c := encodeLength n) (takes_byte tag)
  apply (takes_checkTag htag).after
  exact (takes_length tag h).last (takes_pure _)

/-! ## Elements -/

theorem Takes.exhaust {r : Reader α} {b : Bytes} {a : α} (h : Takes r b [] a) :
    Takes (exhaust r) b [] a := h.last fun _ _ => rfl

/-- What a reader makes of a whole byte string is what it makes of it where nothing is left. -/
theorem Takes.whole {r : Reader α} {b : Bytes} {a : α} (h : Takes r b [] a) :
    whole r b = .ok a := by
  have hexhaust := h.exhaust 0 0
  rw [List.append_nil] at hexhaust
  rw [Der.whole, hexhaust]

theorem Takes.whole? {r : Reader α} {b : Bytes} {a : α} (h : Takes r b [] a) :
    whole? r b = some a := by
  rw [Der.whole?, h.whole]
  rfl

theorem Takes.nested {r : Reader α} {b : Bytes} {a : α} (h : Takes r b [] a) :
    Takes (nested b.length r) b rest a := by
  intro position offset
  have hexhaust := h.exhaust 0 offset
  rw [List.append_nil] at hexhaust
  have hle : b.length ≤ (b ++ rest).length := by simp
  simp only [Der.nested, if_pos hle, List.take_left, hexhaust]
  change Except.ok (a, Cursor.skip ⟨position, offset, b ++ rest⟩ b.length) = _
  simp [Cursor.skip]

/-- What is written between a tag and the end of an element is read there. -/
theorem Takes.tagged {r : Reader α} {b : Bytes} {a : α} (h : Takes r b [] a) {tag : UInt8}
    (htag : isTag tag = true) (hlength : b.length < 65536) :
    Takes (tagged tag r) (encode tag b) rest a := by
  rw [encode, ← List.cons_append]
  apply (takes_header htag hlength).bind
  exact h.nested.unless (not_not_intro rfl)

theorem Takes.located {r : Reader α} {b : Bytes} {a : α} (h : Takes r b rest a) :
    Takes (located r) b rest a := by
  intro position offset
  rw [Der.located, h]
  rfl

theorem takes_settle (a : α) : Takes (settle (.ok a)) [] rest a := fun _ _ => rfl

theorem takes_element {tag : UInt8} (htag : isTag tag = true) {b : Bytes} (h : b.length < 65536) :
    Takes element (encode tag b) rest ⟨tag, b⟩ := by
  rw [encode, ← List.cons_append]
  apply (takes_header htag h).bind
  exact (takes_take b).last (takes_pure _)

/-- An element is longer than its content by its tag and its length. -/
theorem length_encode_le (tag : UInt8) (b : Bytes) : (encode tag b).length ≤ b.length + 4 := by
  have hlength : (encodeLength b.length).length ≤ 3 := by
    unfold encodeLength
    split
    · simp
    · split <;> simp
  rw [encode, List.length_cons, List.length_append]
  omega

theorem takes_octetString {b : Bytes} (h : b.length < 65536) :
    Takes octetString (encode 0x04 b) rest b :=
  (takes_rest b).tagged (by decide) h

theorem takes_unsigned {width : Nat} {content b : Bytes}
    (hcontent : unsignedContent content = .ok b) (hwidth : b.length ≤ width)
    (h : content.length < 65536) :
    Takes (unsigned width) (encode 0x02 content) rest (Bytes.toNatBE b) := by
  apply ((takes_rest content).tagged (by decide) h).last
  simp only [hcontent, if_pos hwidth]
  exact takes_pure _

/-- A bit string of whole bytes. -/
theorem takes_bitString {b : Bytes} (h : b.length < 65535) :
    Takes bitString (encode 0x03 (0 :: b)) rest b := by
  have hcontent : Takes bitContent (0 :: b) [] (0, b) := by
    apply Takes.bind (c := b) (takes_byte 0)
    apply (takes_rest b).last
    exact (takes_pure _).unless (by simp)
  have hlength : (0 :: b : Bytes).length < 65536 := by simp; omega
  exact (hcontent.tagged (by decide) hlength).last (takes_pure b)

/-! ## Optional parts -/

theorem takes_peekTag {tag : UInt8} (htag : isTag tag = true) {more : Bytes} :
    Takes peekTag [] (tag :: more) (some tag) := by
  intro position offset
  -- Where a byte is left, it is checked and nothing else.
  have hcheck : Takes (do checkTag tag; return some tag) [] (tag :: more) (some tag) :=
    (takes_checkTag htag).last (takes_pure (some tag))
  exact hcheck position offset

/-- A part whose tag fits is read. -/
theorem Takes.present {fits : UInt8 → Bool} {r : Reader α} {tag : UInt8} {b : Bytes} {a : α}
    (h : Takes r (encode tag b) rest a) (htag : isTag tag = true) (hfits : fits tag = true) :
    Takes (optional fits r) (encode tag b) rest (some a) := by
  apply (takes_peekTag htag).after
  simp only [if_pos hfits]
  exact h.last (takes_pure _)

/-- A part is missing if the tag of what stands there does not fit. -/
theorem takes_optional_other {fits : UInt8 → Bool} (rest : Bytes) (r : Reader α) {tag : UInt8}
    {b : Bytes} (htag : isTag tag = true) (hfits : fits tag = false) :
    Takes (optional fits r) [] (encode tag b ++ rest) none := by
  apply (takes_peekTag htag).last
  simp only [hfits, Bool.false_eq_true, if_false]
  exact takes_pure _

theorem takes_peekTag_nil : Takes peekTag [] [] none := fun _ _ => rfl

theorem takes_optional_nil (fits : UInt8 → Bool) (r : Reader α) :
    Takes (optional fits r) [] [] none := takes_peekTag_nil.last (takes_pure none)

theorem takes_field_nil (number : UInt8) (r : Reader α) :
    Takes (field number r) [] [] none := fun _ _ => rfl

theorem takes_anyFields_nil : Takes anyFields [] [] () := fun _ _ => rfl

/-! ## Algorithms -/

theorem takes_oid {b : Oid} (h : (Oid.arcs? b).isSome = true) (hlength : b.length ≤ Oid.maxLength) :
    Takes oid (encode 0x06 b) rest b := by
  have hmax : Oid.maxLength = 39 := rfl
  rw [encode, ← List.cons_append]
  apply (takes_header (by decide) (by omega)).bind
  apply Takes.unless (not_not_intro rfl)
  apply Takes.unless (Nat.not_lt.mpr hlength)
  apply (takes_take b).last
  exact (takes_pure b).unless (by simp [Option.isSome_iff_ne_none.mp h])

/-- An algorithm that is only named. -/
theorem takes_algorithm {b : Oid} (h : (Oid.arcs? b).isSome = true)
    (hlength : b.length ≤ Oid.maxLength) :
    Takes algorithm (encode 0x30 (encode 0x06 b)) rest ⟨b, none⟩ := by
  have hmax : Oid.maxLength = 39 := rfl
  have hcontent : Takes (do return ⟨← located oid, ← located (optional (fun _ => true) element)⟩)
      (encode 0x06 b) [] (⟨b, none⟩ : Algorithm) := by
    apply (takes_oid h hlength).located.last
    exact (takes_optional_nil _ _).located.last (takes_pure _)
  have hshort : (encode 0x06 b).length < 65536 := by
    simp only [encode, encodeLength]
    rw [if_pos (by omega)]
    simp
    omega
  exact hcontent.tagged (by decide) hshort

/-- An algorithm with an element as its parameter. -/
theorem takes_algorithm_parameter {b : Oid} (h : (Oid.arcs? b).isSome = true)
    (hlength : b.length ≤ Oid.maxLength) {tag : UInt8} (htag : isTag tag = true) {content : Bytes}
    (hcontent : content.length < 65000) :
    Takes algorithm (encode 0x30 (encode 0x06 b ++ encode tag content)) rest
      ⟨b, some ⟨tag, content⟩⟩ := by
  have hmax : Oid.maxLength = 39 := rfl
  have hparts : Takes (do return ⟨← located oid, ← located (optional (fun _ => true) element)⟩)
      (encode 0x06 b ++ encode tag content) [] (⟨b, some ⟨tag, content⟩⟩ : Algorithm) := by
    apply (takes_oid h hlength).located.bind
    exact ((takes_element htag (by omega)).present htag rfl).located.last (takes_pure _)
  have hfirst := length_encode_le 0x06 b
  have hsecond := length_encode_le tag content
  apply hparts.tagged (by decide)
  rw [List.length_append]
  omega

end HbarKit.Der
