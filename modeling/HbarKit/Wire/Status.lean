/-!
# Response codes

The codes a node answers with, to a submission or inside a receipt, in the order of their numbers
on the wire. A code has a name for messages of state and a text in capitals for people.
-/
namespace HbarKit

inductive Status where
  | ok
  | success
  | busy
  | unknown
  | receiptNotFound
  | platformNotActive
  | platformTransactionNotCreated
  | invalidTransaction
  | invalidTransactionBody
  | invalidSignature
  | invalidNodeAccount
  | invalidAccountId
  | invalidTokenId
  | invalidTransactionId
  | invalidTransactionStart
  | transactionExpired
  | duplicateTransaction
  | insufficientTxFee
  | insufficientPayerBalance
  | insufficientAccountBalance
  | invalidAccountAmounts
  | memoTooLong
  | payerAccountNotFound
  deriving DecidableEq, Repr

namespace Status

/-- All codes in the order of their numbers. -/
def all : List Status :=
  [ok, success, busy, unknown, receiptNotFound, platformNotActive, platformTransactionNotCreated,
    invalidTransaction, invalidTransactionBody, invalidSignature, invalidNodeAccount,
    invalidAccountId, invalidTokenId, invalidTransactionId, invalidTransactionStart,
    transactionExpired, duplicateTransaction, insufficientTxFee, insufficientPayerBalance,
    insufficientAccountBalance, invalidAccountAmounts, memoTooLong, payerAccountNotFound]

def number (s : Status) : Nat := all.idxOf s

def name : Status → String
  | ok => "Ok"
  | success => "Success"
  | busy => "Busy"
  | unknown => "Unknown"
  | receiptNotFound => "ReceiptNotFound"
  | platformNotActive => "PlatformNotActive"
  | platformTransactionNotCreated => "PlatformTransactionNotCreated"
  | invalidTransaction => "InvalidTransaction"
  | invalidTransactionBody => "InvalidTransactionBody"
  | invalidSignature => "InvalidSignature"
  | invalidNodeAccount => "InvalidNodeAccount"
  | invalidAccountId => "InvalidAccountId"
  | invalidTokenId => "InvalidTokenId"
  | invalidTransactionId => "InvalidTransactionId"
  | invalidTransactionStart => "InvalidTransactionStart"
  | transactionExpired => "TransactionExpired"
  | duplicateTransaction => "DuplicateTransaction"
  | insufficientTxFee => "InsufficientTxFee"
  | insufficientPayerBalance => "InsufficientPayerBalance"
  | insufficientAccountBalance => "InsufficientAccountBalance"
  | invalidAccountAmounts => "InvalidAccountAmounts"
  | memoTooLong => "MemoTooLong"
  | payerAccountNotFound => "PayerAccountNotFound"

def ofName? (s : String) : Option Status := all.find? fun c => c.name = s

def capitals : List Char → List Char
  | [] => []
  | c :: cs => c.toUpper :: cs.flatMap fun d => if d.isUpper then ['_', d] else [d.toUpper]

/-- The text of a code: its name in capitals, with underscores between the words. -/
def text (s : Status) : String := String.ofList (capitals s.name.toList)

end Status

end HbarKit
