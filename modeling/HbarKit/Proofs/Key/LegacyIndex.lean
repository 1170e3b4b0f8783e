import HbarKit.Key.Private
import Mathlib.Tactic

/-!
# Indices of the old way

The eight bytes of an index keep whether it is the reserved one, and of any other index only its
sign and its lowest byte. That much can be read off them again, so two indices lead to one child
exactly when they are alike in it. All indices have bytes but those above 32 bits, of which the
reserved one is the exception.
-/
namespace HbarKit.LegacyChild

/-! ## What the bytes of an index keep -/

/-- What the bytes of an index keep of it. -/
inductive Trace where
  /-- That it is the reserved one. -/
  | reserved
  /-- Whether it is negative, and its lowest byte. -/
  | ordinary (negative : Bool) (low : UInt8)
  deriving DecidableEq

/-- The bytes that keep a trace. -/
def Trace.bytes : Trace → Bytes
  | reserved => [0, 0, 0, 0xff, 0xff, 0xff, 0xff, 0xff]
  | ordinary negative low =>
    List.replicate 4 (if negative then 0xff else 0) ++ List.replicate 4 low

/-- The trace of an index. -/
def trace (index : Int64) : Trace :=
  if index = reserved then .reserved
  else .ordinary (index < 0) (UInt8.ofNat (index.toInt % 256).toNat)

/-- Whether an index has no bytes. -/
def TooGreat (index : Int64) : Prop := 0xffffffff < index ∧ index ≠ reserved

theorem trace_reserved : trace reserved = .reserved := rfl

theorem trace_of_ne {index : Int64} (h : index ≠ reserved) :
    trace index = .ordinary (index < 0) (UInt8.ofNat (index.toInt % 256).toNat) := if_neg h

/-- The fourth byte tells the sign, the third one the reserved index, and the last one the rest. -/
theorem Trace.bytes_injective {t u : Trace} (h : t.bytes = u.bytes) : t = u := by
  cases t with
  | reserved =>
    cases u with
    | reserved => rfl
    | ordinary negative low => cases negative <;> simp [bytes] at h
  | ordinary negative low =>
    cases u with
    | reserved => cases negative <;> simp [bytes] at h
    | ordinary negative' low' =>
      cases negative <;> cases negative' <;> simp [bytes] at h ⊢ <;> exact h

theorem indexBytes_of_tooGreat {index : Int64} (h : TooGreat index) :
    indexBytes index = .error (.index index.toInt) := by
  rw [indexBytes, if_neg h.2, if_pos h.1]

theorem indexBytes_of_not_tooGreat {index : Int64} (h : ¬ TooGreat index) :
    indexBytes index = .ok (trace index).bytes := by
  by_cases hreserved : index = reserved
  · rw [indexBytes, if_pos hreserved, hreserved, trace_reserved, Trace.bytes]
  · have hsmall : ¬ 0xffffffff < index := fun hgreat => h ⟨hgreat, hreserved⟩
    rw [indexBytes, if_neg hreserved, if_neg hsmall, trace_of_ne hreserved]
    simp [Trace.bytes]

theorem lowByte_eq_iff {a b : Int} :
    UInt8.ofNat (a % 256).toNat = UInt8.ofNat (b % 256).toNat ↔ a % 256 = b % 256 := by
  rw [← UInt8.toNat_inj, UInt8.toNat_ofNat', UInt8.toNat_ofNat']
  omega

/-! ## Indices with one child -/

/-- Indices that are alike in all that is kept of them, though they may differ. -/
structure Alike (i j : Int64) : Prop where
  left : i ≠ reserved
  right : j ≠ reserved
  sign : i < 0 ↔ j < 0
  low : i.toInt % 256 = j.toInt % 256

theorem trace_eq_iff {i j : Int64} : trace i = trace j ↔ i = j ∨ Alike i j := by
  constructor
  · intro h
    by_cases hi : i = reserved
    · by_cases hj : j = reserved
      · exact .inl (hi.trans hj.symm)
      · rw [hi, trace_reserved, trace_of_ne hj] at h
        cases h
    · by_cases hj : j = reserved
      · rw [hj, trace_reserved, trace_of_ne hi] at h
        cases h
      · rw [trace_of_ne hi, trace_of_ne hj, Trace.ordinary.injEq, decide_eq_decide,
          lowByte_eq_iff] at h
        exact .inr ⟨hi, hj, h.1, h.2⟩
  · rintro (rfl | h)
    · rfl
    · rw [trace_of_ne h.left, trace_of_ne h.right, Trace.ordinary.injEq, decide_eq_decide,
        lowByte_eq_iff]
      exact ⟨h.sign, h.low⟩

/-- What a child is stretched out of. -/
def password (parent : Octets 32) (index : Int64) : Except KeyError Bytes := do
  return parent.bytes ++ (← indexBytes index)

theorem password_of_tooGreat (parent : Octets 32) {index : Int64} (h : TooGreat index) :
    password parent index = .error (.index index.toInt) := by
  rw [password, indexBytes_of_tooGreat h]
  rfl

theorem password_of_not_tooGreat (parent : Octets 32) {index : Int64} (h : ¬ TooGreat index) :
    password parent index = .ok (parent.bytes ++ (trace index).bytes) := by
  rw [password, indexBytes_of_not_tooGreat h]
  rfl

theorem not_tooGreat_of_password {parent : Octets 32} {index : Int64} {p : Bytes}
    (h : password parent index = .ok p) : ¬ TooGreat index := by
  intro hgreat
  rw [password_of_tooGreat parent hgreat] at h
  cases h

/-- Passwords of one parent are the same where the traces of the indices are. -/
theorem password_eq_iff {parent : Octets 32} {i j : Int64} {p q : Bytes}
    (hi : password parent i = .ok p) (hj : password parent j = .ok q) :
    p = q ↔ i = j ∨ Alike i j := by
  have hp := password_of_not_tooGreat parent (not_tooGreat_of_password hi)
  have hq := password_of_not_tooGreat parent (not_tooGreat_of_password hj)
  obtain rfl := Except.ok.inj (hi.symm.trans hp)
  obtain rfl := Except.ok.inj (hj.symm.trans hq)
  rw [List.append_cancel_left_eq, ← trace_eq_iff]
  exact ⟨Trace.bytes_injective, congrArg Trace.bytes⟩

/-- A child is stretched out of its password and of nothing else. -/
theorem child_eq (parent : Octets 32) (index : Int64) :
    child parent index = (password parent index).map stretch := by
  rw [child, password]
  cases indexBytes index <;> rfl

theorem child_eq_error_iff {parent : Octets 32} {index : Int64} {e : KeyError} :
    child parent index = .error e ↔ e = .index index.toInt ∧ TooGreat index := by
  rw [child_eq]
  by_cases h : TooGreat index
  · simp [password_of_tooGreat parent h, h, Except.map, eq_comm]
  · simp [password_of_not_tooGreat parent h, h, Except.map]

theorem legacyDerive_eq (parent : Octets 32) (chainCode : Option (Octets 32)) (index : Int64) :
    (PrivateKey.ed25519 parent chainCode).legacyDerive index =
      (child parent index).map PrivateKey.ofSeed := by
  rw [PrivateKey.legacyDerive]
  cases child parent index <;> rfl

/-- Two indices that have children of a parent have one password, and so one child, exactly when
they are the same or alike. The indices without a child are those above 32 bits, except the reserved
one. -/
theorem password_shared_iff (parent : Octets 32) :
    (∀ i j p q, password parent i = .ok p → password parent j = .ok q →
      (p = q ↔ i = j ∨ Alike i j) ∧
        (p = q → ∃ key, child parent i = .ok key ∧ child parent j = .ok key)) ∧
    (∀ index, child parent index = (password parent index).map stretch ∧
      ∀ chainCode, (PrivateKey.ed25519 parent chainCode).legacyDerive index =
        (child parent index).map PrivateKey.ofSeed) ∧
    ∀ index e, child parent index = .error e ↔
      e = .index index.toInt ∧ 0xffffffff < index ∧ index ≠ reserved := by
  refine ⟨fun i j p q hi hj => ⟨password_eq_iff hi hj, ?_⟩, fun index => ?_, fun index e => ?_⟩
  · rintro rfl
    refine ⟨stretch p, ?_, ?_⟩
    · rw [child_eq, hi]
      rfl
    · rw [child_eq, hj]
      rfl
  · exact ⟨child_eq parent index, fun chainCode => legacyDerive_eq parent chainCode index⟩
  · exact child_eq_error_iff

/-- Two indices that differ by 256 have one child of a parent. -/
theorem password_shared_iff_wrapped :
    let parent := Octets.ofNatBE 32 7
    ∃ p q, password parent 5 = .ok p ∧ password parent 261 = .ok q ∧ Alike 5 261 ∧ p = q ∧
      ∃ key, child parent 5 = .ok key ∧ child parent 261 = .ok key := by
  intro parent
  have hfirst : password parent 5 = .ok (parent.bytes ++ (trace 5).bytes) := rfl
  have hsecond : password parent 261 = .ok (parent.bytes ++ (trace 261).bytes) := rfl
  have halike : Alike 5 261 := ⟨by decide, by decide, by decide, by decide⟩
  obtain ⟨hiff, hchild⟩ := (password_shared_iff parent).1 5 261 _ _ hfirst hsecond
  have hsame := hiff.mpr (.inr halike)
  exact ⟨_, _, hfirst, hsecond, halike, hsame, hchild hsame⟩

end HbarKit.LegacyChild
