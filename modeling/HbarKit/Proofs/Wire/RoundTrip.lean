import HbarKit.Wire.Form
import HbarKit.Proofs.Bytes.Numbers

/-!
# Reading messages back

A form tells of every value what is read where it was written, in front of any bytes: the value up
to what is left out in writing, or nothing, if what is written of it cannot be read. The law of a
form follows from the laws of its parts, so the law of a message is put together the way its form
is. Counts take eight bytes, hence the bound on what is written.
-/
namespace HbarKit.Wire

/-- From the front of any bytes a reader takes what a writer wrote there. What is read of a value is
told by `back`. -/
def Reads (read : Bytes → Option (α × Bytes)) (write : α → Bytes) (back : α → Option α) : Prop :=
  ∀ (a : α) (rest : Bytes), (write a).length < 256 ^ 8 →
    read (write a ++ rest) = (back a).map fun found => (found, rest)

theorem splitAt?_append {n : Nat} {front : Bytes} (h : front.length = n) (rest : Bytes) :
    splitAt? n (front ++ rest) = some (front, rest) := by
  subst h
  simp [splitAt?]

/-- A number is read back modulo its width. -/
theorem readNat_append (width n : Nat) (rest : Bytes) :
    readNat width (Bytes.ofNatLE width n ++ rest) = some (n % 256 ^ width, rest) := by
  rw [readNat, splitAt?_append (Bytes.length_ofNatLE width n)]
  simp only [Option.map_some, Bytes.toNatLE_ofNatLE]

theorem readNat_append_of_lt {width n : Nat} (h : n < 256 ^ width) (rest : Bytes) :
    readNat width (Bytes.ofNatLE width n ++ rest) = some (n, rest) := by
  rw [readNat_append, Nat.mod_eq_of_lt h]

namespace Form

/-- A form whose reader gives back what its writer wrote. -/
def Lawful (f : Form α) (back : α → Option α) : Prop := Reads f.read f.write back

theorem Lawful.congr {f : Form α} {back back' : α → Option α} (hf : f.Lawful back)
    (h : ∀ a, back a = back' a) : f.Lawful back' :=
  funext h ▸ hf

theorem lawful_unsigned64 : unsigned64.Lawful some := by
  intro n rest _
  have hn : n.toNat < 256 ^ 8 := n.toNat_lt
  simp [unsigned64, readNat_append_of_lt hn]

theorem lawful_signed64 : signed64.Lawful some := by
  intro n rest _
  have hn : n.toUInt64.toNat < 256 ^ 8 := n.toUInt64.toNat_lt
  simp only [signed64, readNat_append_of_lt hn, Option.map_some, UInt64.ofNat_toNat]
  rfl

theorem lawful_bytes : bytes.Lawful some := by
  intro b rest h
  have hb : b.length < 256 ^ 8 := by
    simp only [bytes, List.length_append, Bytes.length_ofNatLE] at h
    omega
  simp [bytes, List.append_assoc, readNat_append_of_lt hb, splitAt?_append]

theorem lawful_text : text.Lawful some := by
  intro s rest h
  have hb := lawful_bytes (Bytes.ofString s) rest h
  simp only [text, hb]
  simp

/-- A text form reads what is parsed from the text of a value. -/
theorem lawful_textual (display : α → String) (parse : String → Option α) :
    (textual display parse).Lawful fun a => parse (display a) := by
  intro a rest h
  have ht := lawful_text (display a) rest h
  simp only [textual, ht, Option.map_some, Option.bind_eq_bind, Option.bind_some]
  cases parse (display a) <;> rfl

/-- The same in JSON. -/
theorem ofJson_textual (display : α → String) (parse : String → Option α) (a : α) :
    (textual display parse).ofJson ((textual display parse).toJson a) = parse (display a) := by
  simp [textual, Json.text?]

theorem lawful_map {f : Form α} {back : α → Option α} (hf : f.Lawful back) (there : α → β)
    (here : β → α) : (f.map there here).Lawful fun b => (back (here b)).map there := by
  intro b rest h
  have hb := hf (here b) rest h
  simp only [map, hb, Option.map_map]
  rfl

theorem readMany_flatMap {read : Bytes → Option (α × Bytes)} {write : α → Bytes}
    {back : α → Option α} (hread : Reads read write back) (as : List α) (rest : Bytes)
    (h : (as.flatMap write).length < 256 ^ 8) :
    readMany read as.length (as.flatMap write ++ rest) =
      (as.mapM back).map fun found => (found, rest) := by
  induction as with
  | nil => rfl
  | cons a as ih =>
    rw [List.flatMap_cons, List.length_append] at h
    have hfirst := hread a (as.flatMap write ++ rest) (by omega)
    have hrest := ih (by omega)
    rw [List.length_cons, readMany, List.flatMap_cons, List.append_assoc, hfirst, List.mapM_cons]
    cases back a with
    | none => rfl
    | some found =>
      simp only [Option.map_some, Option.bind_eq_bind, Option.bind_some, hrest]
      cases as.mapM back <;> rfl

/-- Values that take bytes are no more than their bytes. -/
theorem length_le_length_flatMap {write : α → Bytes} (hne : ∀ a, write a ≠ []) (as : List α) :
    as.length ≤ (as.flatMap write).length := by
  induction as with
  | nil => simp
  | cons a as ih =>
    have := List.length_pos_iff.mpr (hne a)
    rw [List.flatMap_cons, List.length_append, List.length_cons]
    omega

theorem lawful_list {f : Form α} {back : α → Option α} (hf : f.Lawful back)
    (hne : ∀ a, f.write a ≠ []) : f.list.Lawful fun as => as.mapM back := by
  intro as rest h
  have hsize : 8 + (as.flatMap f.write).length < 256 ^ 8 := by
    simpa [list] using h
  have hcount := length_le_length_flatMap hne as
  have hlength : as.length < 256 ^ 8 := by omega
  have hmany := readMany_flatMap hf as rest (by omega)
  simp [list, List.append_assoc, readNat_append_of_lt hlength, hmany]

/-- A list of values that can all be read is read. -/
theorem lawful_list_some {f : Form α} (norm : α → α) (hf : f.Lawful fun a => some (norm a))
    (hne : ∀ a, f.write a ≠ []) : f.list.Lawful fun as => some (as.map norm) :=
  (lawful_list hf hne).congr fun _ => List.mapM_pure

/-- What is read of a value that may be absent. -/
def backOption (back : α → Option α) : Option α → Option (Option α)
  | none => some none
  | some a => (back a).map some

theorem lawful_option {f : Form α} {back : α → Option α} (hf : f.Lawful back) :
    f.option.Lawful (backOption back) := by
  intro a rest h
  cases a with
  | none => rfl
  | some a =>
    simp only [option, List.length_cons] at h
    have hread := hf a rest (by omega)
    simp only [option, List.cons_append, hread, backOption, Option.map_map]
    rfl

/-- A value that is one of some is read back from its number. -/
theorem lawful_names [BEq α] [LawfulBEq α] {all : List α} (hall : ∀ a, a ∈ all)
    (hlength : all.length < 256 ^ 4) (name : α → String) : (names all name).Lawful some := by
  intro a rest _
  have hindex : all.idxOf a < all.length := List.idxOf_lt_length_of_mem (hall a)
  have hnumber : all.idxOf a < 256 ^ 4 := lt_trans hindex hlength
  simp [names, readNat_append_of_lt hnumber, List.getElem?_eq_getElem hindex]

theorem write_bytes_ne_nil (b : Bytes) : bytes.write b ≠ [] := by
  intro h
  have := congrArg List.length h
  simp [bytes] at this

theorem write_textual_ne_nil (display : α → String) (parse : String → Option α) (a : α) :
    (textual display parse).write a ≠ [] := by
  intro h
  have := congrArg List.length h
  simp [textual, text, bytes] at this

end Form

namespace Fields

/-- Fields whose reader gives back what their writer wrote. -/
def Lawful (fs : Fields α) (back : α → Option α) : Prop := Reads fs.read fs.write back

theorem lawful_one {f : Form α} {back : α → Option α} (hf : f.Lawful back) (name : String) :
    (one name f).Lawful back := hf

theorem lawful_maybe {f : Form α} {back : α → Option α} (hf : f.Lawful back) (name : String) :
    (maybe name f).Lawful (Form.backOption back) := Form.lawful_option hf

theorem lawful_form {fs : Fields α} {back : α → Option α} (hfs : fs.Lawful back) :
    fs.form.Lawful back := hfs

/-- What is read of two values, one behind the other. -/
def backAnd (backA : α → Option α) (backB : β → Option β) (v : α × β) : Option (α × β) :=
  (backA v.1).bind fun x => (backB v.2).map fun y => (x, y)

theorem lawful_and {a : Fields α} {b : Fields β} {backA : α → Option α} {backB : β → Option β}
    (ha : a.Lawful backA) (hb : b.Lawful backB) : (a.and b).Lawful (backAnd backA backB) := by
  intro v rest h
  simp only [and, List.length_append] at h
  have hfirst := ha v.1 (b.write v.2 ++ rest) (by omega)
  have hsecond := hb v.2 rest (by omega)
  simp only [and, List.append_assoc, hfirst, backAnd]
  cases backA v.1 with
  | none => rfl
  | some x =>
    simp only [Option.map_some, Option.bind_eq_bind, Option.bind_some, hsecond]
    cases backB v.2 <;> rfl

theorem write_and_ne_nil {a : Fields α} (h : ∀ v, a.write v ≠ []) (b : Fields β) (v : α × β) :
    (a.and b).write v ≠ [] := by
  simp [and, h]

end Fields

namespace Case

/-- A case whose reader gives back what its writer wrote. -/
def Lawful (c : Case α) (back : α → Option α) : Prop := Reads c.read c.write back

theorem lawful_holding {f : Form α} {back : α → Option α} (hf : f.Lawful back) (name : String) :
    (holding name f).Lawful back := hf

theorem lawful_fields {fs : Fields α} {back : α → Option α} (hfs : fs.Lawful back)
    (name : String) : (fields name fs).Lawful back := hfs

theorem lawful_empty (name : String) : (empty name).Lawful some := fun _ _ _ => rfl

end Case

theorem Form.lawful_single {c : Case α} {back : α → Option α} (hc : c.Lawful back) :
    (Form.single c).Lawful back := by
  intro a rest h
  simp only [Form.single, List.length_append] at h
  have hread := hc a rest (by omega)
  have hzero : (0 : Nat) < 256 ^ 4 := by decide
  simp [Form.single, List.append_assoc, readNat_append_of_lt hzero, hread]

/-- What is read of a value of one of two kinds. -/
def Form.backEither (backA : α → Option α) (backB : β → Option β) : α ⊕ β → Option (α ⊕ β)
  | .inl x => (backA x).map .inl
  | .inr y => (backB y).map .inr

theorem Form.lawful_either {a : Case α} {b : Case β} {backA : α → Option α}
    {backB : β → Option β} (ha : a.Lawful backA) (hb : b.Lawful backB) :
    (Form.either a b).Lawful (Form.backEither backA backB) := by
  intro v rest h
  have hzero : (0 : Nat) < 256 ^ 4 := by decide
  have hone : (1 : Nat) < 256 ^ 4 := by decide
  cases v with
  | inl x =>
    simp only [Form.either, List.length_append] at h
    have hread := ha x rest (by omega)
    simp [Form.either, List.append_assoc, readNat_append_of_lt hzero, hread, Form.backEither,
      Function.comp_def]
  | inr y =>
    simp only [Form.either, List.length_append] at h
    have hread := hb y rest (by omega)
    simp [Form.either, List.append_assoc, readNat_append_of_lt hone, hread, Form.backEither,
      Function.comp_def]

/-! ## Whole messages -/

theorem length_le_of_encode? {f : Form α} {a : α} {b : Bytes} (h : encode? f a = some b) :
    f.write a = b ∧ b.length ≤ maxMessageBytes := by
  simp only [encode?] at h
  split at h
  · rename_i hle
    cases h
    exact ⟨rfl, hle⟩
  · cases h

/-- What is read of a message that was written. -/
theorem decode?_of_encode? {f : Form α} {back : α → Option α} (hf : f.Lawful back) {a : α}
    {b : Bytes} (h : encode? f a = some b) : decode? f b = back a := by
  obtain ⟨rfl, hle⟩ := length_le_of_encode? h
  have hlt : (f.write a).length < 256 ^ 8 := lt_of_le_of_lt hle (by decide)
  have hread := hf a [] hlt
  rw [List.append_nil] at hread
  rw [decode?, if_pos hle, hread]
  cases back a <;> rfl

end HbarKit.Wire
