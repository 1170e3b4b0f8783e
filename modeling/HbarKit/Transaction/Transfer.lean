import HbarKit.Entity.Id
import HbarKit.Transaction.Amount

/-!
# Transfers

What a transfer moves: amounts of the currency and of tokens, to and from accounts. Movements of
one account add up to one entry; entries, and tokens, keep the order in which they were first named,
and an entry keeps the identifier it was first named by.
-/
namespace HbarKit

/-- An amount that an account receives, or gives when it is negative. -/
structure Movement where
  account : EntityId
  amount : Amount
  deriving DecidableEq

structure TokenMovements where
  token : EntityId
  movements : List Movement
  deriving DecidableEq

structure Transfers where
  hbars : List Movement
  tokens : List TokenMovements
  deriving DecidableEq

namespace Transfers

def empty : Transfers := ⟨[], []⟩

/-- A movement added to the entry of its account, or as a new entry behind the others; nothing if
the sum is out of range. -/
def addTo (m : Movement) : List Movement → Option (List Movement)
  | [] => some [m]
  | entry :: rest =>
    if entry.account.same m.account then
      (entry.amount.add? m.amount).map fun sum => ⟨entry.account, sum⟩ :: rest
    else (addTo m rest).map (entry :: ·)

def addToToken (token : EntityId) (m : Movement) :
    List TokenMovements → Option (List TokenMovements)
  | [] => some [⟨token, [m]⟩]
  | entry :: rest =>
    if entry.token.same token then
      (addTo m entry.movements).map fun movements => ⟨entry.token, movements⟩ :: rest
    else (addToToken token m rest).map (entry :: ·)

def addHbar? (t : Transfers) (m : Movement) : Option Transfers :=
  (addTo m t.hbars).map fun hbars => { t with hbars }

def addToken? (t : Transfers) (token : EntityId) (m : Movement) : Option Transfers :=
  (addToToken token m t.tokens).map fun tokens => { t with tokens }

/-- The identifiers of a transfer in the order in which they are validated. -/
def ids (t : Transfers) : List EntityId :=
  t.hbars.map Movement.account ++
    t.tokens.flatMap fun l => l.token :: l.movements.map Movement.account

def validate (t : Transfers) (l : Ledger) : Except EntityError Unit := EntityId.validateAll t.ids l

end Transfers

end HbarKit
