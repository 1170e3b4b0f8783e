import Mathlib.Tactic

/-!
# Lists of entries

A list of entries with a key each tells of a key what its first entry with that key does. Where each
key has one entry at most, the order of the entries is of no account.
-/
namespace HbarKit

variable {α β : Type} [BEq α] [LawfulBEq α]

end HbarKit
