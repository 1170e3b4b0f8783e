import HbarKit.Entity.Id
import HbarKit.Json.Value
import HbarKit.Key.Private
import HbarKit.Mnemonic.Phrase

/-!
# Reports

What a command has to say when it is done, in lines for people or as a JSON object.
-/
namespace HbarKit.Keytool

inductive Report where
  | key (key : PrivateKey)
  | phrase (phrase : Mnemonic)
  | written (path : String) (publicKey : PublicKey)
  | pem (text : String)
  | checksum (id : EntityId) (ledger : Ledger)

namespace Report

def trimEnd (s : String) : String :=
  String.ofList (s.toList.reverse.dropWhile Text.isBlank).reverse

def address? (k : PublicKey) : Option String := k.evmAddress?.map Hex.encode

def text : Report → String
  | key k =>
    "Scheme      : " ++ k.scheme.text ++ "\nPrivate key : " ++ k.text ++ "\nPublic key  : " ++
      k.publicKey.text ++
      (match address? k.publicKey with
        | some address => "\nEVM address : " ++ address
        | none => "")
  | phrase m => m.text
  | written path publicKey =>
    "Wrote       : " ++ path ++ "\nPublic key  : " ++ publicKey.text
  | pem text => trimEnd text
  | checksum id ledger => id.textOn ledger

/-- The report as a JSON object. A key without an address does not mention one. -/
def toJson : Report → Json
  | key k =>
    .object ([("scheme", .string k.scheme.name), ("private_key", .string k.text),
      ("public_key", .string k.publicKey.text)] ++
      (match address? k.publicKey with
        | some address => [("evm_address", .string address)]
        | none => []))
  | phrase m => .object [("mnemonic", .string m.text)]
  | written path publicKey =>
    .object [("path", .string path), ("public_key", .string publicKey.text)]
  | pem text => .object [("pem", .string text)]
  | checksum id ledger =>
    .object [("id", .string (id.textOn ledger)), ("network", .string ledger.name),
      ("checksum", .string (id.checksumOn ledger))]

def printed (r : Report) (json : Bool) : String :=
  (if json then r.toJson.pretty else r.text) ++ "\n"

end Report

end HbarKit.Keytool
