import TxForge.AccessList
import TxForge.Chain
import TxForge.Json.Limits
import TxForge.Json.Reader

/-!
# Call requests

The JSON object that describes a call to a chain.  It is written with the parts that are present
and no others, in a fixed order, and numbers as hexadecimal quantities.  Reading takes the parts in
any order; members with unknown keys are held for a while and then dropped, so they have to keep
the limits of `TxForge.Json.Limits`.
-/

set_option autoImplicit false

namespace TxForge

/-- A call as a chain is asked about it: the parts that calls have whatever their type, with one
price, and an access list.  A request may also name fee caps, a chain, a type, blobs and
authorizations.  These are left out, as a factory sets none of them.  They are read as any other
members with unknown keys. -/
structure CallRequest where
  caller : Option Address := none
  recipient : Option Address := none
  gasPrice : Option Price := none
  gas : Option Gas := none
  value : Option Wei := none
  input : Option Bytes := none
  /-- The input under its older name. -/
  data : Option Bytes := none
  nonce : Option Nonce := none
  accessList : Option AccessList := none
deriving DecidableEq

namespace CallRequest

/-- The keys of the parts, in the order they are written. -/
def keys : List String :=
  ["from", "to", "gasPrice", "gas", "value", "input", "data", "nonce", "accessList"]

/-! ## Writing -/

/-- A member that is written if the part is present. -/
def member {α : Type} (key : String) (f : α → Json) (part : Option α) : List (String × Json) :=
  match part with
  | some a => [(key, f a)]
  | none => []

/-- A number as a JSON string. -/
def quantityJson {width : Nat} (n : BitVec width) : Json :=
  .ofText (Hex.quantity n.toNat)

/-- A byte string as a JSON string. -/
def bytesJson (b : Bytes) : Json :=
  .ofText (Hex.encode b)

/-- The members that are written: those of the parts that are present. -/
def parts (r : CallRequest) : List (String × Json) :=
  member "from" AccessList.hexJson r.caller ++
    member "to" AccessList.hexJson r.recipient ++
    member "gasPrice" quantityJson r.gasPrice ++ member "gas" quantityJson r.gas ++
    member "value" quantityJson r.value ++ member "input" bytesJson r.input ++
    member "data" bytesJson r.data ++ member "nonce" quantityJson r.nonce ++
    member "accessList" AccessList.toJson r.accessList

/-- The request as a JSON object. -/
def toJson (r : CallRequest) : Json :=
  .record r.parts

/-- The request as JSON text. -/
def toText (r : CallRequest) : String :=
  r.toJson.render

/-! ## Reading -/

/-- Members with unknown keys keep the limits inside the object. -/
def holdsUnknown (members : List (Json.Literal × Json)) : Bool :=
  members.all fun (key, v) => key.any keys.contains || v.isWithin (Json.maxDepth - 1)

/-- Reads a request from its JSON object. -/
def ofJson? : Json → Option CallRequest
  | .object members => do
    let parts ← Json.members? keys members
    if !holdsUnknown members then none
    let caller ← Json.optional? (Json.fixedBytes? 20) (parts.lookup "from")
    let recipient ← Json.optional? (Json.fixedBytes? 20) (parts.lookup "to")
    let gasPrice ← Json.optional? (Json.quantity? 128) (parts.lookup "gasPrice")
    let gas ← Json.optional? (Json.quantity? 64) (parts.lookup "gas")
    let value ← Json.optional? (Json.quantity? 256) (parts.lookup "value")
    let input ← Json.optional? Json.bytes? (parts.lookup "input")
    let data ← Json.optional? Json.bytes? (parts.lookup "data")
    let nonce ← Json.optional? (Json.quantity? 64) (parts.lookup "nonce")
    let accessList ← Json.optional? AccessList.ofJson? (parts.lookup "accessList")
    return ⟨caller, recipient, gasPrice, gas, value, input, data, nonce, accessList⟩
  | _ => none

/-- The layout of a request.  Input and data are of any length. -/
def layout : Json.Layout :=
  .record [("from", .bytes 20), ("to", .bytes 20), ("accessList", AccessList.layout)]

/-- Reads a request from JSON text.  What goes wrong is reported under the given message. -/
def ofText (text message : String) : Except Failure CallRequest :=
  match (Json.readAs? layout text).bind ofJson? with
  | some r => .ok r
  | none => .error ⟨message, ["malformed json"]⟩

end CallRequest
end TxForge
