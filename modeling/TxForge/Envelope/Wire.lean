import TxForge.Envelope
import TxForge.Rlp

/-!
# Transactions on the wire

What is hashed to be signed, and what is sent once it is.  Every type but the first puts its byte in
front of the list of its fields.  A legacy transaction has no room for its chain: bound to one, it
is hashed with the chain id and two zeros behind its fields, and its `v` folds chain id and parity
into one number.
-/

set_option autoImplicit false

namespace TxForge

namespace AccessList

/-- The list as a tree. -/
def toRlp (list : AccessList) : Rlp :=
  .list (list.map fun item =>
    .list [.bytes item.address.toBytes,
      .list (item.storageKeys.map fun key => .bytes key.toBytes)])

end AccessList

namespace Authorization

/-- The authorization as a tree. -/
def toRlp (auth : Authorization) : Rlp :=
  .list [.natural auth.chainId.toNat, .bytes auth.address.toBytes, .natural auth.nonce.toNat,
    .natural auth.yParity.toNat, .natural auth.r.toNat, .natural auth.s.toNat]

end Authorization

namespace Envelope

/-- The recipient as an item, empty for none. -/
def recipientRlp : Option Address → Rlp
  | none => .bytes []
  | some address => .bytes address.toBytes

/-- The fields in the order of the wire, except the chain id of a legacy transaction. -/
def fieldsRlp : Envelope → List Rlp
  | .legacy tx =>
    [.natural tx.nonce.toNat, .natural tx.gasPrice.toNat, .natural tx.gasLimit.toNat,
      recipientRlp tx.recipient, .natural tx.value.toNat, .bytes tx.input]
  | .accessList tx =>
    [.natural tx.chainId.toNat, .natural tx.nonce.toNat, .natural tx.gasPrice.toNat,
      .natural tx.gasLimit.toNat, recipientRlp tx.recipient, .natural tx.value.toNat,
      .bytes tx.input, tx.accessList.toRlp]
  | .dynamicFee tx =>
    [.natural tx.chainId.toNat, .natural tx.nonce.toNat, .natural tx.maxPriorityFeePerGas.toNat,
      .natural tx.maxFeePerGas.toNat, .natural tx.gasLimit.toNat, recipientRlp tx.recipient,
      .natural tx.value.toNat, .bytes tx.input, tx.accessList.toRlp]
  | .blob tx =>
    [.natural tx.chainId.toNat, .natural tx.nonce.toNat, .natural tx.maxPriorityFeePerGas.toNat,
      .natural tx.maxFeePerGas.toNat, .natural tx.gasLimit.toNat, .bytes tx.recipient.toBytes,
      .natural tx.value.toNat, .bytes tx.input, tx.accessList.toRlp,
      .natural tx.maxFeePerBlobGas.toNat, .list (tx.blobHashes.map fun hash => .bytes hash.toBytes)]
  | .setCode tx =>
    [.natural tx.chainId.toNat, .natural tx.nonce.toNat, .natural tx.maxPriorityFeePerGas.toNat,
      .natural tx.maxFeePerGas.toNat, .natural tx.gasLimit.toNat, .bytes tx.recipient.toBytes,
      .natural tx.value.toNat, .bytes tx.input, tx.accessList.toRlp,
      .list (tx.authorizations.map Authorization.toRlp)]

/-- Puts the byte of the type in front, where the type has one. -/
def tagged (e : Envelope) (fields : List Rlp) : Bytes :=
  match e with
  | .legacy _ => (Rlp.list fields).encode
  | _ => e.txType.byte :: (Rlp.list fields).encode

/-! ## Signing -/

/-- What stands behind the fields when a transaction is hashed to be signed: for a legacy
transaction its chain id and two zeros, if it is bound to a chain. -/
def signingTail : Envelope → List Rlp
  | .legacy tx =>
    match tx.chainId with
    | some chainId => [.natural chainId.toNat, .natural 0, .natural 0]
    | none => []
  | _ => []

/-- The bytes that a signature commits to. -/
def signingPayload (e : Envelope) : Bytes :=
  e.tagged (e.fieldsRlp ++ e.signingTail)

/-- The digest that is signed. -/
def signingHash (e : Envelope) : Word :=
  Keccak.hash e.signingPayload

/-! ## Sending -/

/-- The number that tells the parity of a signature, and for a legacy transaction its chain. -/
def parityField (e : Envelope) (oddY : Bool) : Nat :=
  match e with
  | .legacy tx =>
    match tx.chainId with
    | some chainId => 35 + 2 * chainId.toNat + oddY.toNat
    | none => 27 + oddY.toNat
  | _ => oddY.toNat

/-- The bytes of the signed transaction. -/
def encode (e : Envelope) (sig : Signature) : Bytes :=
  e.tagged (e.fieldsRlp ++
    [.natural (e.parityField sig.oddY), .natural sig.r.toNat, .natural sig.s.toNat])

end Envelope
end TxForge
