/-!
# The public ledgers

Each ledger has a name and a digit. The digit seeds the salt that binds a checksum to its ledger.
-/
namespace HbarKit

/-- A public ledger that an entity checksum can be bound to. -/
inductive Ledger where
  | mainnet
  | testnet
  | previewnet
  deriving DecidableEq, Repr

namespace Ledger

def all : List Ledger := [mainnet, testnet, previewnet]

def digit : Ledger → Nat
  | mainnet => 0
  | testnet => 1
  | previewnet => 2

def name : Ledger → String
  | mainnet => "mainnet"
  | testnet => "testnet"
  | previewnet => "previewnet"

def ofExactName? (s : String) : Option Ledger := all.find? fun l => l.name = s

/-- The ledger with this name, ASCII letters of either case. -/
def ofName? (s : String) : Option Ledger := ofExactName? (String.ofList (s.toList.map Char.toLower))

/-- The seven salt bytes of a ledger: its digit in the high half of the first, then zeros. -/
def salt (l : Ledger) : List Nat := [l.digit * 16, 0, 0, 0, 0, 0, 0]

end Ledger

end HbarKit
