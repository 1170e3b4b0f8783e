import HbarKit.Duration
import HbarKit.Key.Scheme
import HbarKit.Network.Transport
import HbarKit.Transaction.Id
import HbarKit.Wire.Status

/-!
# Errors of clients and transactions

An error falls in one of five classes. A client tries again after trouble of the network and after
some answers of nodes; what reaches a caller after that is that its attempts or its time are spent,
together with the last error before.
-/
namespace HbarKit

inductive ConfigurationError where
  | noOperator
  /-- The transaction has no copy for a node. -/
  | notPreparedFor (node : EntityId)
  /-- A receipt was asked for without saying of which transaction. -/
  | noTransactionId
  | unknownNode (node : EntityId)
  | noNodes
  /-- The shortest pause of a configuration is longer than its longest one. -/
  | backoffOrder
  | unreadable (path reason : String)
  | malformed (reason : String)
  deriving DecidableEq, Repr

def ConfigurationError.message : ConfigurationError → String
  | noOperator => "client has no operator"
  | notPreparedFor node => "transaction was not frozen for node " ++ node.text
  | noTransactionId => "receipt query needs a transaction ID"
  | unknownNode node => "node " ++ node.text ++ " is not in the client network"
  | noNodes => "network must list at least one node"
  | backoffOrder => "min_backoff_ms exceeds max_backoff_ms"
  | unreadable path reason => path ++ ": " ++ reason
  | malformed reason => reason

inductive MessageError where
  | tooLong
  | unreadable
  /-- A response that should carry a receipt does not. -/
  | noReceipt
  deriving DecidableEq, Repr

def MessageError.message : MessageError → String
  | tooLong => "the size limit has been reached"
  | unreadable => "the bytes are not a message"
  | noReceipt => "receipt response carried no receipt"

inductive ErrorKind where
  | validation
  | state
  | network
  | protocol
  | exhaustion
  deriving DecidableEq, Repr

def ErrorKind.name : ErrorKind → String
  | validation => "Validation"
  | state => "State"
  | network => "Network"
  | protocol => "Protocol"
  | exhaustion => "Exhaustion"

inductive Error where
  | key (e : KeyError)
  | entity (e : EntityError)
  | transport (e : TransportError)
  /-- A field of a frozen transaction was to be set. -/
  | frozen
  /-- An executed transaction was to be frozen, signed or executed. -/
  | executed
  /-- A transaction that names no nodes was to be frozen without a client to choose them. -/
  | nodesUnset
  /-- A transaction without a name was to be frozen with nobody to pay for it. -/
  | payerUnset
  | memoTooLong (length max : Nat)
  /-- What an account moves is out of range. -/
  | overflow (account : EntityId)
  | attemptsSpent (attempts : Nat) (last : Error)
  | timeSpent (elapsed : Duration) (last : Error)
  /-- When a run has to end for want of time cannot be told, as the time that has passed and the
  pause have a sum that no duration holds. No caller is handed this: the run breaks off there. -/
  | timeOverflow
  | cancelled
  | deadlinePassed
  /-- A node answered with a code other than acceptance. -/
  | rejected (status : Status) (node : EntityId) (transaction : Option TransactionId)
  /-- A transaction was decided on, but did not succeed. -/
  | receiptStatus (status : Status) (transaction : TransactionId)
  | wire (e : MessageError)
  | noNodes
  | configuration (e : ConfigurationError)
  deriving DecidableEq

namespace Error

def kind : Error → ErrorKind
  | key _ | entity _ | memoTooLong .. | overflow _ | configuration _ => .validation
  | frozen | executed | nodesUnset | payerUnset => .state
  | transport _ | wire _ | noNodes => .network
  | rejected .. | receiptStatus .. => .protocol
  | attemptsSpent .. | timeSpent .. | timeOverflow | cancelled | deadlinePassed => .exhaustion

/-- The error behind spent attempts and spent time, or the error itself. -/
def innermost : Error → Error
  | attemptsSpent _ last => last.innermost
  | timeSpent _ last => last.innermost
  | e => e

def message : Error → String
  | key e => e.message
  | entity e => e.message
  | transport e => e.message
  | frozen => "transaction is immutable; it has been frozen"
  | executed => "transaction has already been executed"
  | nodesUnset => "transaction must have node account IDs set, or be frozen with a client"
  | payerUnset => "transaction has no transaction ID and the client has no operator"
  | memoTooLong length max =>
    "memo is " ++ Decimal.ofNat length ++ " bytes, the limit is " ++ Decimal.ofNat max
  | overflow account => "transfer total for account " ++ account.text ++ " overflows"
  | attemptsSpent attempts last =>
    "gave up after " ++ Decimal.ofNat attempts ++ " attempts: " ++ last.message
  | timeSpent elapsed last => "request timed out after " ++ elapsed.text ++ ": " ++ last.message
  | timeOverflow => "overflow when adding durations"
  | cancelled => "request was cancelled"
  | deadlinePassed => "request deadline exceeded"
  | rejected status node transaction =>
    "node " ++ node.text ++ " returned " ++ status.text ++
      (match transaction with
        | some id => " for transaction " ++ id.text
        | none => "")
  | receiptStatus status transaction =>
    "receipt for transaction " ++ transaction.text ++ " has status " ++ status.text
  | wire e => "serialization error: " ++ e.message
  | noNodes => "no nodes available in the client network"
  | configuration e => "invalid client configuration: " ++ e.message

end Error

end HbarKit
