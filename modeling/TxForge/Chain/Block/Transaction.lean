import TxForge.Json.Shape
import TxForge.TxType

/-!
# Transactions in blocks

A block may list its transactions in full, each as an object with the members of its type, its
signature, its hash, its sender and its place in the chain.  `Transaction.isWellFormed` tests such
an object.

The type is written as text; an object that names none is a legacy transaction.  The signature of a
legacy transaction has its parity and its chain in one number, and that chain has to be the one
that the transaction names.  Other signatures give the parity by itself, or a number of the older
kind in its place.

Chains have recorded legacy transactions with prices that no purse could pay.  So the price of a
legacy transaction may have 256 bits, and so may a price that was paid in the end.
-/

set_option autoImplicit false

namespace TxForge
namespace Block.Transaction

open Json (Shape)

/-! ## Members -/

/-- The members of every transaction. -/
def common : List (String × Shape) :=
  [("nonce", .number 64), ("gas", .number 64), ("value", .number 256), ("input", .bytes),
    ("r", .number 256), ("s", .number 256), ("hash", .fixed 32), ("from", .fixed 20)]

/-- The place of a transaction in the chain, which a transaction may still be without. -/
def placement : List (String × Shape) :=
  [("blockHash", .orNull (.fixed 32)), ("blockNumber", .orNull (.number 64)),
    ("transactionIndex", .orNull (.number 64))]

/-- A member that names the chain. -/
def chain : String × Shape :=
  ("chainId", .number 64)

/-- The recipient, if there is one. -/
def recipient : String × Shape :=
  ("to", .orNull (.fixed 20))

/-- An access list. -/
def accessList : Shape :=
  .list (.record [("address", .fixed 20), ("storageKeys", .list (.fixed 32))])

/-- The parity of a signature, in either form, as a number of at most `width` bits. -/
def parity (width : Nat) : List (String × Shape) :=
  [("yParity", .orNull (.number width)), ("v", .orNull (.number width))]

/-- The fees of a transaction that pays a tip of its own. -/
def fees : List (String × Shape) :=
  [("maxFeePerGas", .number 128), ("maxPriorityFeePerGas", .number 128)]

/-- The price per gas that such a transaction has paid in the end. -/
def paidPrice : String × Shape :=
  ("gasPrice", .orNull (.number 256))

/-- A signed authorization. -/
def authorization : Shape :=
  .object []
    [("chainId", .number 256), ("address", .fixed 20), ("nonce", .number 64),
      ("r", .number 256), ("s", .number 256)] (parity 8)

/-- A transaction with the given members besides those of every transaction. -/
def withCommon (required optional : List (String × Shape)) : Shape :=
  .object [("gasLimit", "gas")] (common ++ required) (placement ++ optional)

/-- The shape of a transaction of the type.  A dynamic fee transaction, and no other, may have
`null` for an empty access list. -/
def shape : TxType → Shape
  | .legacy =>
    withCommon [("gasPrice", .number 256), ("v", .number 128)]
      [("chainId", .orNull (.number 64)), recipient]
  | .accessList =>
    withCommon [chain, ("gasPrice", .number 128), ("accessList", accessList)]
      (recipient :: parity 64)
  | .dynamicFee =>
    withCommon (chain :: ("accessList", .orNull accessList) :: fees)
      (recipient :: paidPrice :: parity 64)
  | .blob =>
    withCommon
      (chain :: ("accessList", accessList) :: ("to", .fixed 20) ::
        ("blobVersionedHashes", .list (.fixed 32)) :: ("maxFeePerBlobGas", .number 128) :: fees)
      (paidPrice :: parity 64)
  | .setCode =>
    withCommon
      (chain :: ("accessList", accessList) :: ("to", .fixed 20) ::
        ("authorizationList", .list authorization) :: fees)
      (paidPrice :: parity 64)

/-! ## Types -/

/-- The texts that name a type. -/
def typeTexts (t : TxType) : List String :=
  let digit := String.singleton (Nat.digitChar t.byte.toNat)
  ["0x" ++ digit, "0x0" ++ digit]

/-- The type that a value names. -/
def typeOf? : Json → Option TxType
  | .string (some s) =>
    [TxType.legacy, .accessList, .dynamicFee, .blob, .setCode].find? fun t =>
      (typeTexts t).contains s
  | .null => some .legacy
  | _ => none

/-! ## Signatures -/

/-- The number under a key. -/
def numberAt? (key : String) (members : List (Json.Literal × Json)) : Option Nat :=
  (members.lookup (some key)).bind fun v => (v.quantity? 256).map (·.toNat)

/-- The chain that the number `v` of a legacy signature speaks of.  There is no answer if it is no
such number, and no chain in the answer if the signature is good for any chain. -/
def chainOf? (v : Nat) : Option (Option Nat) :=
  if v = 27 ∨ v = 28 then some none
  else if 35 ≤ v ∧ (v - 35) / 2 < capacity 64 then some (some ((v - 35) / 2))
  else none

/-- The signature of a legacy transaction is for its chain.  Transactions that a chain put in by
itself have a signature of zeros. -/
def hasLegacySignature (members : List (Json.Literal × Json)) : Bool :=
  let zeros := ["v", "r", "s"].all fun key => numberAt? key members == some 0
  zeros ||
    match (numberAt? "v" members).bind chainOf? with
    | some (some chain) => (numberAt? "chainId" members).all (· == chain)
    | some none => true
    | none => false

/-- The signature of a transaction with a type tells its parity. -/
def hasParity (members : List (Json.Literal × Json)) : Bool :=
  match numberAt? "yParity" members, numberAt? "v" members with
  | some y, _ => y ≤ 1
  | none, some v => v ≤ 1 || v == 27 || v == 28 || 35 ≤ v
  | none, none => false

/-- Each of the authorizations, if there are any, tells the parity of its signature. -/
def haveParity (members : List (Json.Literal × Json)) : Bool :=
  match members.lookup (some "authorizationList") with
  | some (.array items) => items.all fun item =>
    match item with
    | .object parts => ["yParity", "v"].any fun key => (numberAt? key parts).isSome
    | _ => false
  | _ => true

/-! ## Transactions -/

/-- The value is a well-formed transaction. -/
def isWellFormed : Json → Bool
  | v@(.object members) =>
    match typeOf? ((members.lookup (some "type")).getD .null) with
    | some .legacy => (shape .legacy).fits Json.isNoByte v && hasLegacySignature members
    | some .setCode =>
      (shape .setCode).fits Json.isNoByte v && hasParity members && haveParity members
    | some t => (shape t).fits Json.isNoByte v && hasParity members
    | none => false
  | _ => false

end Block.Transaction
end TxForge
