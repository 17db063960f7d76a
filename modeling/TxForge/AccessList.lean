import TxForge.Json.Decode
import TxForge.Json.Layout

/-!
# Access lists

The addresses and storage keys that a transaction declares in advance.
-/

set_option autoImplicit false

namespace TxForge

/-- An address with the storage keys of it that are declared. -/
structure AccessListItem where
  address : Address
  storageKeys : List Word
deriving DecidableEq

/-- The declared addresses, in the order they are written. -/
abbrev AccessList := List AccessListItem

namespace AccessList

/-- The list that stands in where one is wanted and none was given: the sender with its first
storage key. -/
def placeholder (sender : Address) : AccessList :=
  [⟨sender, [FixedBytes.ofNat 32 0]⟩]

/-! ## As JSON -/

/-- The layout of a list. -/
def layout : Json.Layout :=
  .list (.record [("address", .bytes 20), ("storageKeys", .list (.bytes 32))])

/-- A fixed byte string as a JSON string. -/
def hexJson {n : Nat} (b : FixedBytes n) : Json :=
  .ofText b.hex

/-- One item as a JSON object. -/
def itemJson (item : AccessListItem) : Json :=
  .record [("address", hexJson item.address),
    ("storageKeys", .array (item.storageKeys.map hexJson))]

/-- The list as a JSON array. -/
def toJson (list : AccessList) : Json :=
  .array (list.map itemJson)

/-- Reads one item: an object with both members, or the two values in their order. -/
def itemOfJson? : Json → Option AccessListItem
  | .object members => do
    let parts ← Json.members? ["address", "storageKeys"] members
    let address ← Json.required? (Json.fixedBytes? 20) (parts.lookup "address")
    let storageKeys ← Json.required? (Json.list? (Json.fixedBytes? 32)) (parts.lookup "storageKeys")
    return ⟨address, storageKeys⟩
  | .array [address, storageKeys] => do
    let address ← address.fixedBytes? 20
    let storageKeys ← storageKeys.list? (Json.fixedBytes? 32)
    return ⟨address, storageKeys⟩
  | _ => none

/-- Reads a list. -/
def ofJson? (v : Json) : Option AccessList :=
  v.list? itemOfJson?

end AccessList
end TxForge
