import HbarKit.Proofs.Transaction.InPlace
import HbarKit.Proofs.Wire.Strictness

/-!
# The list of all copies

A transaction is handed on as the list of its copies. A record of which all can still be set is
frozen for that, but on a copy of it, so that it can be set afterwards as before. What is written
for it is what is written once it is frozen in place, and what is written for a frozen record is
read as the bodies for its nodes with the signatures that they have by then.
-/
namespace HbarKit.Transaction

namespace Record

/-! ## Writing in place -/

/-- What is done to a copy of the record. -/
def onCopy {α : Type} (p : Procedure Record α) : Procedure Record α := fun r => ((p r).1, r)

/-- The copies as they are to be written: those of the record, or those that freezing a copy of it
brings about. -/
def copiesToWrite : Procedure Record (List NodeCopy) := do
  match (← get).state with
  | .mutable => onCopy do
    freeze
    return (← get).copies
  | .frozen | .executed => return (← get).copies

/-- What is written for some copies. -/
def bytesFor (copies : List NodeCopy) : Except Error Bytes :=
  match Wire.encode? Wire.transactionList (copies.map NodeCopy.signed) with
  | some b => .ok b
  | none => .error (.wire .tooLong)

/-- The bytes of the list of all copies. -/
def toBytes : Procedure Record Bytes := do
  let copies ← copiesToWrite
  Procedure.ofExcept (bytesFor copies)

theorem toBytes_of_ok {r : Record} {copies : List NodeCopy}
    (h : copiesToWrite r = (.ok copies, r)) :
    toBytes r = (bytesFor copies, r) := by
  rw [toBytes, Procedure.bind_of_ok h]
  rfl

theorem toBytes_of_error {r : Record} {e : Error} (h : copiesToWrite r = (.error e, r)) :
    toBytes r = (.error e, r) := by
  rw [toBytes, Procedure.bind_of_error h]

theorem copiesToWrite_of_mutable {r : Record} (h : r.state = .mutable) :
    copiesToWrite r = ((freeze r).1.map fun _ => (freeze r).2.copies, r) := by
  rw [copiesToWrite, Procedure.get_bind_apply]
  simp only [h, onCopy]
  rcases hfreeze : freeze r with ⟨result, r'⟩
  cases result with
  | error e =>
    rw [Procedure.bind_of_error hfreeze]
    rfl
  | ok _ =>
    rw [Procedure.bind_of_ok hfreeze]
    rfl

theorem copiesToWrite_of_ne {r : Record} (h : r.state ≠ .mutable) :
    copiesToWrite r = (.ok r.copies, r) := by
  rw [copiesToWrite, Procedure.get_bind_apply]
  cases hstate : r.state with
  | mutable => exact absurd hstate h
  | frozen => rfl
  | executed => rfl

/-! ## What is written in place -/

/-- In place, the bytes are those of the transaction, and the record stays as it is. -/
theorem toBytes_in_place (t : Transaction) : toBytes t.record = (t.toBytes, t.record) := by
  cases t with
  | draft d =>
    have hcopies := copiesToWrite_of_mutable (r := (draft d).record) rfl
    rw [freeze_in_place, Transaction.freeze] at hcopies
    cases hd : d.freeze with
    | error e =>
      rw [hd] at hcopies
      rw [toBytes_of_error hcopies, Transaction.toBytes, hd]
      rfl
    | ok f =>
      rw [hd] at hcopies
      rw [toBytes_of_ok hcopies, Transaction.toBytes, hd]
      rfl
  | frozen f => exact toBytes_of_ok (copiesToWrite_of_ne (by simp [record, ofFrozen]))
  | executed f => exact toBytes_of_ok (copiesToWrite_of_ne (by simp [record, ofFrozen]))

/-- A record that cannot be frozen is not written, for the same reason. -/
theorem toBytes_of_freeze_error {r : Record} (hstate : r.state = .mutable) {e : Error}
    (h : (freeze r).1 = .error e) : (toBytes r).1 = .error e := by
  have hcopies := copiesToWrite_of_mutable hstate
  rw [h] at hcopies
  rw [toBytes_of_error hcopies]

/-- A record that can be frozen is written as it is when it is frozen. -/
theorem toBytes_of_freeze_ok {t : Transaction} (hstate : t.record.state = .mutable)
    (h : (freeze t.record).1 = .ok ()) :
    (toBytes t.record).1 = (toBytes (freeze t.record).2).1 := by
  rw [freeze_in_place] at h ⊢
  cases t with
  | draft d =>
    cases hd : d.freeze with
    | error e =>
      rw [Transaction.freeze, hd] at h
      cases h
    | ok f =>
      have hfrozen : (draft d).outcome (draft d).freeze = (.ok (), (frozen f).record) := by
        rw [Transaction.freeze, hd]
        rfl
      rw [hfrozen, toBytes_in_place, toBytes_in_place, Transaction.toBytes, hd]
      rfl
  | frozen f => cases hstate
  | executed f => cases hstate

/-! ## What is read again -/

/-- How many bytes the list of all copies takes. -/
def size (r : Record) : Nat := (Wire.transactionList.write (r.copies.map NodeCopy.signed)).length

theorem strict_transactionList : Wire.transactionList.Strict some :=
  .of_lawful Wire.lawful_transactionList Wire.steady_transactionList

theorem read_toBytes {r : Record} (hstate : r.state ≠ .mutable) (hsize : r.size ≤ 4 * 1024 * 1024) :
    ∃ b, (toBytes r).1 = .ok b ∧
      Wire.decode Wire.transactionList b = .ok (r.copies.map NodeCopy.signed) := by
  obtain ⟨b, hb⟩ := Option.isSome_iff_exists.mp ((strict_transactionList.written_iff _).mpr hsize)
  refine ⟨b, ?_, strict_transactionList.read _ _ _ hb rfl⟩
  rw [toBytes_of_ok (copiesToWrite_of_ne hstate), bytesFor, hb]

theorem toBytes_of_size {r : Record} (hstate : r.state ≠ .mutable)
    (hsize : 4 * 1024 * 1024 < r.size) : (toBytes r).1 = .error (.wire .tooLong) := by
  rw [toBytes_of_ok (copiesToWrite_of_ne hstate), bytesFor]
  cases hb : Wire.encode? Wire.transactionList (r.copies.map NodeCopy.signed) with
  | none => rfl
  | some b =>
    have hshort := (strict_transactionList.written_iff _).mp (Option.isSome_of_eq_some hb)
    exact absurd hsize (Nat.not_lt.mpr hshort)

/-- The signed transactions of a record that is frozen, in the order of its nodes: each has the
bytes of the body for its node and the signatures of its copy. If the name of the transaction can be
read, the bytes are read as that body, up to checksums. -/
structure Lists (r : Record) (items : List SignedTransaction) : Prop where
  copies : items = r.copies.map NodeCopy.signed
  nodes : r.copies.map NodeCopy.node = r.nodes
  bodies : ∃ id fee, r.id = some id ∧ r.fee = some fee ∧
    List.Forall₂ (fun node item =>
      let body : TransactionBody :=
        ⟨id, node, fee, UInt64.ofNat r.validFor.seconds, r.memo, r.transfers⟩
      Wire.encode? Wire.body body = some item.body ∧
        (id.validStart.Regular → Wire.decode Wire.body item.body = .ok body.bare)) r.nodes items

theorem lists_ofFrozen {f : Frozen} (haligned : f.copies.map NodeCopy.node = f.nodes)
    (hwritten : ∀ c ∈ f.copies, Wire.encode? Wire.body (f.terms.bodyFor c.node) = some c.body)
    (hreadable : ∀ c ∈ f.copies,
      Wire.decode? Wire.body c.body = (f.terms.bodyFor c.node).back) (state : TransactionState) :
    (ofFrozen f state).Lists (f.copies.map NodeCopy.signed) where
  copies := rfl
  nodes := haligned
  bodies := by
    refine ⟨f.terms.id, f.terms.fee, rfl, rfl, ?_⟩
    change List.Forall₂ _ f.nodes _
    rw [← haligned, List.forall₂_map_left_iff, List.forall₂_map_right_iff]
    refine List.forall₂_same.mpr fun c hc => ⟨hwritten c hc, fun h => ?_⟩
    exact Wire.Form.decode_eq_ok_iff.mpr ((hreadable c hc).trans (if_pos h))

end Record

/-- Whatever was called before, writing the list of all copies leaves the record as it is. A record
of which all can still be set fails as freezing it fails, or else gives what it gives once it is
frozen; one that is frozen gives bytes that are read as its copies, unless they are too many. -/
theorem toBytes_after_new (calls : List Call) :
    let r := Record.new.after calls
    Record.toBytes r = ((new.after calls).toBytes, r) ∧
      (r.state = .mutable →
        (∀ e, (Record.freeze r).1 = .error e → (Record.toBytes r).1 = .error e) ∧
        ((Record.freeze r).1 = .ok () →
          (Record.toBytes r).1 = (Record.toBytes (Record.freeze r).2).1)) ∧
      (r.state ≠ .mutable →
        (r.size ≤ 4 * 1024 * 1024 → ∃ b items, (Record.toBytes r).1 = .ok b ∧
          Wire.decode Wire.transactionList b = .ok items ∧ r.Lists items) ∧
        (4 * 1024 * 1024 < r.size → (Record.toBytes r).1 = .error (.wire .tooLong))) := by
  have hrecord : Record.new.after calls = (new.after calls).record := (record_after new calls).symm
  have hcoherent := coherent_after calls
  rw [hrecord]
  refine ⟨Record.toBytes_in_place _, fun hstate => ⟨fun e => ?_, ?_⟩, fun hstate => ⟨?_, ?_⟩⟩
  · exact Record.toBytes_of_freeze_error hstate
  · exact Record.toBytes_of_freeze_ok hstate
  · intro hsize
    obtain ⟨b, hb, hread⟩ := Record.read_toBytes hstate hsize
    refine ⟨b, _, hb, hread, ?_⟩
    -- Signing has kept the copies in the order of the nodes, and their bodies as they were.
    cases ht : new.after calls with
    | draft d =>
      rw [ht] at hstate
      exact absurd rfl hstate
    | frozen f | executed f =>
      rw [ht] at hcoherent
      exact Record.lists_ofFrozen (hcoherent.aligned rfl) (hcoherent.written _ _ rfl rfl)
        (hcoherent.readable _ _ rfl rfl) _
  · exact Record.toBytes_of_size hstate

/-- A record before it is frozen, and the same record after it. -/
theorem toBytes_after_new_freezing :
    let r := Record.new.after (freezingCalls.take 2)
    let frozen := Record.new.after freezingCalls
    r.state = .mutable ∧ (Record.freeze r).1 = .ok () ∧
      (Record.toBytes r).1 = (Record.toBytes (Record.freeze r).2).1 ∧
      frozen.state ≠ .mutable ∧ frozen.size ≤ 4 * 1024 * 1024 ∧
      ∃ b items, (Record.toBytes frozen).1 = .ok b ∧
        Wire.decode Wire.transactionList b = .ok items ∧ frozen.Lists items := by
  intro r frozen
  have hmutable : r.state = .mutable := by decide +kernel
  have hfreeze : (Record.freeze r).1 = .ok () := by decide +kernel
  have hfrozen : frozen.state ≠ .mutable := by decide +kernel
  have hsize : frozen.size ≤ 4 * 1024 * 1024 := by decide +kernel
  have hbefore := (toBytes_after_new (freezingCalls.take 2)).2.1 hmutable
  have hafter := (toBytes_after_new freezingCalls).2.2 hfrozen
  exact ⟨hmutable, hfreeze, hbefore.2 hfreeze, hfrozen, hsize, hafter.1 hsize⟩

end HbarKit.Transaction
