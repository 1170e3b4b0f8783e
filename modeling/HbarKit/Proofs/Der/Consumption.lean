import HbarKit.Der.Algorithm
import HbarKit.Proofs.Except

/-!
# How much a reader takes

What a reader gives is made of bytes that it took, so a document is longer than anything found in
it. The least number of bytes taken may depend on what was read.
-/
namespace HbarKit.Der

variable {α β : Type}

/-- A reader takes at least so many bytes. -/
def Consumes (r : Reader α) (size : α → Nat) : Prop :=
  ∀ c a c', r c = .ok (a, c') → size a + c'.bytes.length ≤ c.bytes.length

theorem Consumes.mono {r : Reader α} {s t : α → Nat} (h : Consumes r s) (hle : ∀ a, t a ≤ s a) :
    Consumes r t := by
  intro c a c' hrun
  have hs := h c a c' hrun
  have hta := hle a
  omega

theorem consumes_pure {a : α} {s : α → Nat} (h : s a = 0) :
    Consumes (pure a : Reader α) s := by
  intro c b c' hrun
  cases hrun
  omega

/-- What the second of two readers has to take is what the first one left of the whole. -/
theorem Consumes.bind {r : Reader α} {f : α → Reader β} {s : α → Nat} {t : β → Nat}
    (h : Consumes r s) (hf : ∀ a, Consumes (f a) fun b => t b - s a) : Consumes (r >>= f) t := by
  intro c b c'' hrun
  obtain ⟨⟨a, c'⟩, hr, hrest⟩ := bind_eq_ok.mp hrun
  have hs := h c a c' hr
  have ht := hf a c' b c'' hrest
  simp only at ht
  omega

/-- What the first of two readers takes need not be counted. -/
theorem Consumes.next {r : Reader α} {f : α → Reader β} {s : α → Nat} {t : β → Nat}
    (h : Consumes r s) (hf : ∀ a, Consumes (f a) t) : Consumes (r >>= f) t :=
  h.bind fun a => (hf a).mono fun _ => Nat.sub_le _ _

theorem Consumes.ite {p : Prop} [Decidable p] {r r' : Reader α} {s : α → Nat}
    (h : Consumes r s) (h' : Consumes r' s) : Consumes (if p then r else r') s := by
  split
  · exact h
  · exact h'

theorem consumes_refuse (cause : Cause) (s : α → Nat) :
    Consumes (refuse cause : Reader α) s := by
  intro c a c' hrun
  cases hrun

/-- A refusal takes anything, so what would follow it does not count. -/
theorem Consumes.unless {p : Prop} [Decidable p] {cause : Cause} {f : Unit → Reader α}
    {r : Reader α} {s : α → Nat} (h : Consumes r s) :
    Consumes (if p then refuse cause >>= f else r) s := by
  split
  · intro c a c' hrun
    cases hrun
  · exact h

theorem consumes_get : Consumes (get : Reader Cursor) fun _ => 0 := by
  intro c a c' hrun
  cases hrun
  simp

theorem not_refuseShort {n : Nat} {c : Cursor} {p : α × Cursor} : refuseShort n c ≠ .ok p := by
  simp [refuseShort]

theorem consumes_byte : Consumes byte fun _ => 1 := by
  intro c a c' hrun
  unfold byte at hrun
  split at hrun
  · rename_i hbytes
    cases hrun
    simp [Cursor.skip, hbytes]
    omega
  · cases not_refuseShort hrun

theorem consumes_take (n : Nat) : Consumes (take n) List.length := by
  intro c a c' hrun
  unfold take at hrun
  split at hrun
  · cases hrun
    simp only [Cursor.skip, List.length_take, List.length_drop]
    omega
  · cases not_refuseShort hrun

theorem consumes_rest : Consumes rest List.length := by
  intro c a c' hrun
  cases hrun
  simp [Cursor.skip]

theorem consumes_checkTag (b : UInt8) : Consumes (checkTag b) fun _ => 0 :=
  (consumes_refuse _ _).ite (consumes_pure rfl)

theorem consumes_peekTag : Consumes peekTag fun _ => 0 := by
  apply consumes_get.next
  intro c
  split
  · exact consumes_pure rfl
  · exact (consumes_checkTag _).next fun _ => consumes_pure rfl

theorem consumes_bigEndian (count value : Nat) : Consumes (bigEndian count value) fun _ => 0 := by
  induction count generalizing value with
  | zero => exact consumes_pure rfl
  | succ count ih => exact consumes_byte.next fun b => ih _

theorem consumes_length (tag : UInt8) : Consumes (length tag) fun _ => 1 := by
  apply consumes_byte.bind
  intro b
  apply Consumes.ite
  · exact consumes_pure rfl
  apply (consumes_refuse _ _).ite
  apply (consumes_refuse _ _).ite
  apply (consumes_bigEndian _ _).next
  intro n
  apply (consumes_refuse _ _).ite
  exact (consumes_refuse _ _).ite (consumes_pure rfl)

theorem consumes_header : Consumes header fun _ => 2 := by
  apply consumes_byte.bind
  intro tag
  apply (consumes_checkTag tag).next
  intro _
  apply (consumes_length tag).bind
  intro n
  exact consumes_pure rfl

/-! ## Elements -/

/-- A reader that has to use up an element takes no more than there is of it. -/
theorem Consumes.exhaust {r : Reader α} {s : α → Nat} (h : Consumes r s) :
    Consumes (exhaust r) s := by
  intro c a c' hrun
  obtain ⟨⟨b, c₁⟩, hr, hrest⟩ := bind_eq_ok.mp hrun
  simp only at hrest
  split at hrest
  · cases hrest
    exact h c a c' hr
  · cases hrest

theorem Consumes.nested {r : Reader α} {s : α → Nat} (h : Consumes r s) (n : Nat) :
    Consumes (nested n r) s := by
  intro c a c' hrun
  unfold Der.nested at hrun
  split at hrun
  · obtain ⟨⟨b, c₁⟩, hr, hrest⟩ := bind_eq_ok.mp hrun
    cases hrest
    have hinner := h.exhaust _ _ _ hr
    simp only [Cursor.skip, List.length_take, List.length_drop] at hinner ⊢
    omega
  · cases not_refuseShort hrun

theorem Consumes.tagged {r : Reader α} {s : α → Nat} (h : Consumes r s) (tag : UInt8) :
    Consumes (tagged tag r) fun a => s a + 2 := by
  apply consumes_header.bind
  rintro ⟨found, n⟩
  exact (h.nested n).unless

theorem Consumes.located {r : Reader α} {s : α → Nat} (h : Consumes r s) :
    Consumes (located r) s := by
  intro c a c' hrun
  cases hr : r c with
  | error refusal =>
    simp only [Der.located, hr] at hrun
    cases hrun
  | ok p =>
    simp only [Der.located, hr] at hrun
    cases hrun
    exact h c a c' hr

/-- What a reader makes of a whole byte string takes no more than that. -/
theorem Consumes.le_of_whole? {r : Reader α} {s : α → Nat} (h : Consumes r s) {b : Bytes}
    {a : α} (hrun : whole? r b = some a) : s a ≤ b.length := by
  unfold whole? whole at hrun
  split at hrun
  · rename_i c' hexhaust
    cases hrun
    have hsize := h.exhaust _ _ _ hexhaust
    simp only at hsize
    omega
  · cases hrun

theorem consumes_element : Consumes element fun e => e.content.length + 2 := by
  apply consumes_header.bind
  rintro ⟨tag, n⟩
  apply (consumes_take n).bind
  intro b
  exact consumes_pure (by simp)

theorem consumes_octetString : Consumes octetString fun b => b.length + 2 :=
  consumes_rest.tagged 0x04

theorem consumes_unsigned (width : Nat) : Consumes (unsigned width) fun _ => 2 := by
  apply (consumes_rest.tagged 0x02).bind
  intro b
  cases unsignedContent b with
  | ok n => exact Consumes.ite (consumes_pure (by simp)) (consumes_refuse _ _)
  | error cause => exact consumes_refuse _ _

theorem consumes_bitContent : Consumes bitContent fun _ => 0 := by
  apply consumes_byte.next
  intro unused
  apply consumes_rest.next
  intro b
  refine Consumes.unless ?_
  exact consumes_pure rfl

theorem consumes_wholeBitContent : Consumes wholeBitContent fun _ => 0 := by
  apply consumes_bitContent.next
  rintro ⟨unused, b⟩
  refine Consumes.unless ?_
  exact consumes_pure rfl

/-! ## Optional parts -/

theorem Consumes.optional {r : Reader α} {s : α → Nat} (h : Consumes r s)
    (fits : UInt8 → Bool) : Consumes (optional fits r) fun _ => 0 := by
  apply consumes_peekTag.next
  intro tag
  cases tag with
  | none => exact consumes_pure rfl
  | some tag =>
    refine Consumes.ite ?_ ?_
    · exact h.next fun _ => consumes_pure rfl
    · exact consumes_pure rfl

theorem Consumes.field {r : Reader α} {s : α → Nat} (h : Consumes r s) (number : UInt8) :
    Consumes (field number r) fun _ => 0 := by
  have hgo : ∀ fuel, Consumes (field.go number r fuel) fun _ => 0 := by
    intro fuel
    induction fuel with
    | zero => exact consumes_pure rfl
    | succ fuel ih =>
      apply consumes_peekTag.next
      intro tag
      cases tag with
      | none => exact consumes_pure rfl
      | some tag =>
        refine Consumes.ite ?_ (Consumes.ite ?_ ?_)
        · exact consumes_pure rfl
        · exact h.next fun _ => consumes_pure rfl
        · exact consumes_element.next fun _ => ih
  exact consumes_get.next fun c => hgo _

theorem consumes_anyFields : Consumes anyFields fun _ => 0 := by
  have hgo : ∀ fuel, Consumes (anyFields.go fuel) fun _ => 0 := by
    intro fuel
    induction fuel with
    | zero => exact consumes_pure rfl
    | succ fuel ih =>
      apply consumes_peekTag.next
      intro tag
      cases tag with
      | none => exact consumes_pure rfl
      | some tag =>
        refine Consumes.ite ?_ (consumes_refuse _ _)
        exact (consumes_element.tagged tag).next fun _ => ih
  exact consumes_get.next fun c => hgo _

/-! ## Algorithms -/

theorem consumes_oid : Consumes oid fun _ => 0 := by
  apply consumes_header.next
  rintro ⟨tag, n⟩
  refine Consumes.unless (Consumes.unless ?_)
  apply (consumes_take n).next
  intro content
  refine Consumes.unless ?_
  exact consumes_pure rfl

theorem consumes_algorithm : Consumes algorithm fun _ => 2 := by
  refine Consumes.tagged (s := fun _ => 0) ?_ 0x30
  apply consumes_oid.located.next
  intro oid
  apply (consumes_element.optional _).located.next
  intro parameter
  exact consumes_pure rfl

end HbarKit.Der
