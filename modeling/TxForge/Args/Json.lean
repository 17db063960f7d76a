import TxForge.Args
import TxForge.Json.Reader

/-!
# Transaction args as JSON

Args are written as an object of all ten fields in their order.  Numbers are plain integers of any
size, the value is a hexadecimal quantity, and a field that is not set is `null`.

Reading takes the fields in any order, skips unknown members, and takes a field that is missing
for one that is not set.  Input and value are never unset, so `null` is refused for them.  The ten
values may also stand in an array, in their order.
-/

set_option autoImplicit false

namespace TxForge
namespace TxArgs

/-- The value of one field. -/
def fieldJson (args : TxArgs) : Field → Json
  | .chainId => .ofOption (fun n => .ofNat n.toNat) args.chainId
  | .nonce => .ofOption (fun n => .ofNat n.toNat) args.nonce
  | .recipient => .ofOption AccessList.hexJson args.recipient
  | .input => .ofText (Hex.encode args.input)
  | .value => .ofText (Hex.quantity args.value.toNat)
  | .gasLimit => .ofOption (fun n => .ofNat n.toNat) args.gasLimit
  | .gasPrice => .ofOption (fun n => .ofNat n.toNat) args.gasPrice
  | .maxFeePerGas => .ofOption (fun n => .ofNat n.toNat) args.maxFeePerGas
  | .maxPriorityFeePerGas => .ofOption (fun n => .ofNat n.toNat) args.maxPriorityFeePerGas
  | .accessList => .ofOption AccessList.toJson args.accessList

/-- The args as a JSON object. -/
def toJson (args : TxArgs) : Json :=
  .record (Field.all.map fun field => (field.key, args.fieldJson field))

/-- The args as JSON text. -/
def toText (args : TxArgs) : String :=
  args.toJson.render

/-- Reads args from the values of their fields. -/
def ofParts? (part : Field → Option Json) : Option TxArgs := do
  let chainId ← Json.optional? (Json.uint? 64) (part .chainId)
  let nonce ← Json.optional? (Json.uint? 64) (part .nonce)
  let recipient ← Json.optional? (Json.fixedBytes? 20) (part .recipient)
  let input ← Json.withDefault? Json.bytes? [] (part .input)
  let value ← Json.withDefault? (Json.quantity? 256) 0 (part .value)
  let gasLimit ← Json.optional? (Json.uint? 64) (part .gasLimit)
  let gasPrice ← Json.optional? (Json.uint? 128) (part .gasPrice)
  let maxFeePerGas ← Json.optional? (Json.uint? 128) (part .maxFeePerGas)
  let maxPriorityFeePerGas ← Json.optional? (Json.uint? 128) (part .maxPriorityFeePerGas)
  let accessList ← Json.optional? AccessList.ofJson? (part .accessList)
  return ⟨chainId, nonce, recipient, input, value, gasLimit, gasPrice, maxFeePerGas,
    maxPriorityFeePerGas, accessList⟩

/-- Reads args from an object, or from an array of the ten values. -/
def ofJson? : Json → Option TxArgs
  | .object members => do
    let parts ← Json.members? (Field.all.map Field.key) members
    ofParts? fun field => parts.lookup field.key
  | .array items =>
    if items.length = Field.all.length then
      ofParts? fun field => (Field.all.zip items).lookup field
    else none
  | _ => none

/-- The layout of one field. -/
def Field.layout : Field → Json.Layout
  | .recipient => .bytes 20
  | .accessList => AccessList.layout
  | _ => .any

/-- The layout of args. -/
def layout : Json.Layout :=
  .record (Field.all.map fun field => (field.key, field.layout))

/-- Reads args from JSON text. -/
def ofText? (text : String) : Option TxArgs :=
  (Json.readAs? layout text).bind ofJson?

end TxArgs
end TxForge
