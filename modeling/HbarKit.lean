import HbarKit.Bytes
import HbarKit.Bytes.Base64
import HbarKit.Bytes.Hex
import HbarKit.Cipher.Aes
import HbarKit.Cipher.Mode
import HbarKit.Curve.Ecdsa
import HbarKit.Curve.Ed25519
import HbarKit.Curve.Edwards
import HbarKit.Curve.Modular
import HbarKit.Curve.Secp256k1
import HbarKit.Der.Algorithm
import HbarKit.Der.Element
import HbarKit.Der.Fault
import HbarKit.Der.Oid
import HbarKit.Der.Reader
import HbarKit.Der.Tag
import HbarKit.Duration
import HbarKit.Entity.Checksum
import HbarKit.Entity.Id
import HbarKit.Entity.Ledger
import HbarKit.Error
import HbarKit.Hash.Function
import HbarKit.Hash.Hmac
import HbarKit.Hash.Keccak
import HbarKit.Hash.Scrypt
import HbarKit.Hash.Sha256
import HbarKit.Hash.Sha512
import HbarKit.Json.Fault
import HbarKit.Json.Numeral
import HbarKit.Json.Reader
import HbarKit.Json.Record
import HbarKit.Json.Skip
import HbarKit.Json.Value
import HbarKit.Key.Derivation
import HbarKit.Key.Document
import HbarKit.Key.Private
import HbarKit.Key.Public
import HbarKit.Key.Scheme
import HbarKit.Keystore.Armor
import HbarKit.Keystore.Document
import HbarKit.Keystore.Encrypted
import HbarKit.Keystore.Error
import HbarKit.Keystore.Pem
import HbarKit.Keytool.Arguments
import HbarKit.Keytool.Command
import HbarKit.Keytool.Failure
import HbarKit.Keytool.Folder
import HbarKit.Keytool.Machine
import HbarKit.Keytool.Report
import HbarKit.Keytool.Value
import HbarKit.Keytool.Verb
import HbarKit.Main
import HbarKit.Mnemonic.Crc
import HbarKit.Mnemonic.EnglishWords
import HbarKit.Mnemonic.Error
import HbarKit.Mnemonic.LegacyTable
import HbarKit.Mnemonic.Phrase
import HbarKit.Mnemonic.Radix
import HbarKit.Mnemonic.StandardPhrase
import HbarKit.Network.Cancellation
import HbarKit.Network.Client
import HbarKit.Network.Configuration
import HbarKit.Network.Frame
import HbarKit.Network.Host
import HbarKit.Network.Inquiry
import HbarKit.Network.Node
import HbarKit.Network.Pool
import HbarKit.Network.ReceiptQuery
import HbarKit.Network.Settings
import HbarKit.Network.Submission
import HbarKit.Network.Transport
import HbarKit.Number.Binary64
import HbarKit.Number.Shortest
import HbarKit.Text.Blank
import HbarKit.Text.CaseTable
import HbarKit.Text.Decimal
import HbarKit.Text.Decomposition
import HbarKit.Text.DecompositionTable
import HbarKit.Text.HiddenTable
import HbarKit.Text.Lowercase
import HbarKit.Text.Quoted
import HbarKit.Text.Split
import HbarKit.Text.Table
import HbarKit.Transaction.Amount
import HbarKit.Transaction.Id
import HbarKit.Transaction.Lifecycle
import HbarKit.Transaction.Signature
import HbarKit.Transaction.Transfer
import HbarKit.Wire.Form
import HbarKit.Wire.Message
import HbarKit.Wire.Status
import HbarKit.Proofs.Bytes.Base64
import HbarKit.Proofs.Bytes.Hex
import HbarKit.Proofs.Bytes.Numbers
import HbarKit.Proofs.Cipher.Aes
import HbarKit.Proofs.Cipher.Chaining
import HbarKit.Proofs.Cipher.Field
import HbarKit.Proofs.Cipher.Mode
import HbarKit.Proofs.Curve.Arithmetic
import HbarKit.Proofs.Curve.Compression
import HbarKit.Proofs.Curve.EdwardsGroup
import HbarKit.Proofs.Curve.Group
import HbarKit.Proofs.Curve.Prime
import HbarKit.Proofs.Curve.PublicPoint
import HbarKit.Proofs.Curve.SecretFactor
import HbarKit.Proofs.Der.Consumption
import HbarKit.Proofs.Der.Encoding
import HbarKit.Proofs.Entity.Binding
import HbarKit.Proofs.Entity.Checksum
import HbarKit.Proofs.Entity.Grammar
import HbarKit.Proofs.Entity.Slip
import HbarKit.Proofs.Entity.Text
import HbarKit.Proofs.Entity.Words
import HbarKit.Proofs.Exact
import HbarKit.Proofs.Except
import HbarKit.Proofs.Json.Choice
import HbarKit.Proofs.Json.Record
import HbarKit.Proofs.Json.Refusal
import HbarKit.Proofs.Json.Scalar
import HbarKit.Proofs.Key.Bare
import HbarKit.Proofs.Key.Documents
import HbarKit.Proofs.Key.Framing
import HbarKit.Proofs.Key.LegacyIndex
import HbarKit.Proofs.Key.RoundTrip
import HbarKit.Proofs.Key.Spelling
import HbarKit.Proofs.Keystore.Altered
import HbarKit.Proofs.Keystore.Armor
import HbarKit.Proofs.Keystore.Document
import HbarKit.Proofs.Keystore.Encrypted
import HbarKit.Proofs.Keystore.Pem
import HbarKit.Proofs.Keystore.Reopening
import HbarKit.Proofs.Keystore.RoundTrip
import HbarKit.Proofs.Keystore.Verification
import HbarKit.Proofs.Lookup
import HbarKit.Proofs.Mnemonic.Acceptance
import HbarKit.Proofs.Mnemonic.Conversion
import HbarKit.Proofs.Mnemonic.Corruption
import HbarKit.Proofs.Mnemonic.Descent
import HbarKit.Proofs.Mnemonic.EnglishWords
import HbarKit.Proofs.Mnemonic.LegacyPhrase
import HbarKit.Proofs.Mnemonic.LegacyTable
import HbarKit.Proofs.Mnemonic.Radix
import HbarKit.Proofs.Mnemonic.Reading
import HbarKit.Proofs.Mnemonic.Spelling
import HbarKit.Proofs.Mnemonic.StandardPhrase
import HbarKit.Proofs.Network.Absorption
import HbarKit.Proofs.Network.Attempts
import HbarKit.Proofs.Network.Backoff
import HbarKit.Proofs.Network.Exchanges
import HbarKit.Proofs.Network.Failover
import HbarKit.Proofs.Network.FrameStream
import HbarKit.Proofs.Network.Frames
import HbarKit.Proofs.Network.Health
import HbarKit.Proofs.Network.Log
import HbarKit.Proofs.Network.Marks
import HbarKit.Proofs.Network.Nodes
import HbarKit.Proofs.Network.Ordering
import HbarKit.Proofs.Network.Phases
import HbarKit.Proofs.Network.Preflight
import HbarKit.Proofs.Network.Recording
import HbarKit.Proofs.Network.Replies
import HbarKit.Proofs.Network.Retry
import HbarKit.Proofs.Network.Run
import HbarKit.Proofs.Network.Sampling
import HbarKit.Proofs.Network.SharedPool
import HbarKit.Proofs.Network.Stopping
import HbarKit.Proofs.Text.Decimal
import HbarKit.Proofs.Text.Decomposition
import HbarKit.Proofs.Text.Lines
import HbarKit.Proofs.Text.Lowercase
import HbarKit.Proofs.Text.Split
import HbarKit.Proofs.Text.Words
import HbarKit.Proofs.Transaction.Accumulation
import HbarKit.Proofs.Transaction.Bookkeeping
import HbarKit.Proofs.Transaction.Calls
import HbarKit.Proofs.Transaction.Coherence
import HbarKit.Proofs.Transaction.Cosigning
import HbarKit.Proofs.Transaction.Delivery
import HbarKit.Proofs.Transaction.Failure
import HbarKit.Proofs.Transaction.IdText
import HbarKit.Proofs.Transaction.InPlace
import HbarKit.Proofs.Transaction.Listing
import HbarKit.Proofs.Transaction.Permanence
import HbarKit.Proofs.Transaction.Resolution
import HbarKit.Proofs.Wire.Message
import HbarKit.Proofs.Wire.RoundTrip
import HbarKit.Proofs.Wire.Strictness
