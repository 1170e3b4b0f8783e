import HbarKit.Entity.Id
import HbarKit.Proofs.Text.Decimal
import HbarKit.Proofs.Text.Split

/-!
# Reading identifiers back

The written form of an identifier holds its three numbers and nothing of its checksum, so reading it
gives the identifier without the checksum.
-/
namespace HbarKit

namespace Address

/-- A written address holds digits and points only. -/
theorem not_mem_chars {c : Char} (hd : Decimal.isDigit c = false) (hp : c ≠ '.') (a : Address) :
    c ∉ a.chars := by
  simp [chars, Checksum.addressChars, Decimal.not_mem_digits hd, hp]

end Address

namespace EntityId

@[simp] theorem number?_digits (n : UInt64) : number? (Decimal.digits n.toNat) = some n := by
  have h : n.toNat < UInt64.size := n.toNat_lt
  simp [number?, h]

@[simp] theorem address?_chars (a : Address) : address? a.chars = some a := by
  have hd : ∀ n, '.' ∉ Decimal.digits n := Decimal.not_mem_digits (by decide)
  have hpieces : Text.pieces '.' a.chars =
      [Decimal.digits a.shard.toNat, Decimal.digits a.realm.toNat, Decimal.digits a.num.toNat] := by
    rw [Address.chars, Checksum.addressChars, List.append_assoc, List.cons_append,
      Text.pieces_append (hd _), Text.pieces_append (hd _), Text.pieces_of_not_mem (hd _)]
  simp [address?, hpieces]

/-- The written address is read as the identifier without its checksum. -/
theorem ofChars?_chars (id : EntityId) : ofChars? id.address.chars = some id.bare := by
  have hdash : '-' ∉ id.address.chars := Address.not_mem_chars (by decide) (by decide) _
  simp [ofChars?, Text.cut_eq_none hdash, bare]

theorem parse_text (id : EntityId) : parse id.text = .ok id.bare := by
  simp [parse, text, ofChars?_chars]

end EntityId

end HbarKit
