import TxForge.Json.Reader

/-!
# Transaction types

A chain knows five types of transactions, told apart by a byte.  Three of them can be assembled
from args and signed here; the other two are known but only ever met as finished transactions.
-/

set_option autoImplicit false

namespace TxForge

/-- A type of transaction that chains know. -/
inductive TxType where
  | legacy
  | accessList
  | dynamicFee
  | blob
  | setCode
deriving DecidableEq

namespace TxType

/-- The byte of the type on the wire. -/
def byte : TxType → UInt8
  | .legacy => 0
  | .accessList => 1
  | .dynamicFee => 2
  | .blob => 3
  | .setCode => 4

/-- The type that a byte stands for. -/
def ofByte? (b : UInt8) : Option TxType :=
  [TxType.legacy, .accessList, .dynamicFee, .blob, .setCode].find? (·.byte == b)

/-- The name of the type by the improvement proposal that brought it. -/
def name : TxType → String
  | .legacy => "Legacy"
  | .accessList => "Eip2930"
  | .dynamicFee => "Eip1559"
  | .blob => "Eip4844"
  | .setCode => "Eip7702"

theorem ofByte?_byte (t : TxType) : ofByte? t.byte = some t := by
  cases t <;> rfl

end TxType

/-- A type of transaction that can be assembled from args. -/
inductive SupportedType where
  | legacy
  | accessList
  | dynamicFee
deriving DecidableEq

/-- Why a type of transaction cannot be assembled from args. -/
inductive UnsupportedType where
  /-- Chains know the type. -/
  | known (type : TxType)
  /-- No type has this byte. -/
  | unknown (byte : UInt8)
deriving DecidableEq

namespace UnsupportedType

/-- The error as text. -/
def message : UnsupportedType → String
  | .known type => "transaction type " ++ type.name ++ " is not supported"
  | .unknown byte => "unknown transaction type " ++ Hex.encode [byte]

end UnsupportedType

namespace SupportedType

/-- The type as chains know it. -/
def toTxType : SupportedType → TxType
  | .legacy => .legacy
  | .accessList => .accessList
  | .dynamicFee => .dynamicFee

/-- The type with this place among the types that chains know. -/
def ofTxType : TxType → Except UnsupportedType SupportedType
  | .legacy => .ok .legacy
  | .accessList => .ok .accessList
  | .dynamicFee => .ok .dynamicFee
  | type => .error (.known type)

/-- The type with this byte. -/
def ofByte (b : UInt8) : Except UnsupportedType SupportedType :=
  match TxType.ofByte? b with
  | some type => ofTxType type
  | none => .error (.unknown b)

/-- The name of the type in messages. -/
def name : SupportedType → String
  | .legacy => "legacy"
  | .accessList => "access_list"
  | .dynamicFee => "dynamic_fee"

/-- The name of the type in JSON. -/
def tag : SupportedType → String
  | .legacy => "Legacy"
  | .accessList => "AccessList"
  | .dynamicFee => "DynamicFee"

/-- The type with this name in JSON. -/
def ofTag? (s : String) : Option SupportedType :=
  [SupportedType.legacy, .accessList, .dynamicFee].find? (·.tag == s)

/-- The type as a JSON value. -/
def toJson (t : SupportedType) : Json :=
  .ofText t.tag

/-- Reads a type: its name, or an object that maps its name to nothing. -/
def ofJson? : Json → Option SupportedType
  | .string (some s) => ofTag? s
  | .object [(some s, .null)] => ofTag? s
  | _ => none

theorem ofJson?_toJson (t : SupportedType) : ofJson? t.toJson = some t := by
  cases t <;> rfl

theorem ofTxType_toTxType (t : SupportedType) : ofTxType t.toTxType = .ok t := by
  cases t <;> rfl

theorem eq_toTxType_of_ofTxType {type : TxType} {t : SupportedType} (h : ofTxType type = .ok t) :
    type = t.toTxType := by
  cases type <;> cases h <;> rfl

end SupportedType
end TxForge
