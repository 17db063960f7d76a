import TxForge.Unsigned

/-!
# Signed transactions

A signed transaction keeps, beside the transaction and its signature, who is said to have signed it
and which chain it is meant for.  Nothing ties these two to the rest until the transaction is
validated (`TxForge.Signed.Validation`).

`UnsignedTx.sign` records the chain id that the transaction had before it was signed.  A legacy
transaction without one is recorded for chain zero, also when a signer that is bound to a chain
gives it that chain.
-/

set_option autoImplicit false

namespace TxForge

/-- A key, and the one chain it signs for if it is bound to one. -/
structure Signer where
  key : Key
  chainId : Option ChainId := none

namespace Signer

/-- The address of the signer. -/
def address (signer : Signer) : Address :=
  signer.key.address

end Signer

/-- A transaction with its signature. -/
structure SignedTx where
  envelope : Envelope
  signature : Signature
  /-- Who is said to have signed it. -/
  sender : Address
  /-- The chain it is meant for. -/
  chainId : ChainId
deriving DecidableEq

namespace SignedTx

/-- The bytes that are sent. -/
def raw (tx : SignedTx) : Bytes :=
  tx.envelope.encode tx.signature

/-- The hash that the transaction is known by. -/
def hash (tx : SignedTx) : Word :=
  Keccak.hash tx.raw

/-- The address that made the signature. -/
def recover? (tx : SignedTx) : Option Address :=
  tx.signature.recover? tx.envelope.signingHash

end SignedTx

/-- Why a signer does not sign a transaction. -/
inductive SigningError where
  /-- The transaction is bound to another chain than the signer. -/
  | chainMismatch (tx signer : ChainId)
deriving DecidableEq

namespace SigningError

/-- The error as text. -/
def message : SigningError → String
  | .chainMismatch tx signer =>
    "transaction-provided chain ID (" ++ toString tx.toNat ++
      ") does not match the signer\x27s chain ID (" ++ toString signer.toNat ++ ")"

end SigningError

namespace UnsignedTx

/-- The transaction as the signer signs it: a signer that is bound to a chain refuses another
chain, and gives its own to a transaction that has none. -/
def boundFor (tx : UnsignedTx) (signer : Signer) : Except SigningError UnsignedTx :=
  match signer.chainId with
  | none => .ok tx
  | some own =>
    match tx.envelope.chainId with
    | none => .ok (tx.bindChain own)
    | some chainId => if chainId = own then .ok tx else .error (.chainMismatch chainId own)

/-- Signs the transaction. -/
def sign (tx : UnsignedTx) (signer : Signer) : Except SigningError SignedTx := do
  let bound ← tx.boundFor signer
  return {
    envelope := bound.envelope
    signature := signer.key.sign bound.envelope.signingHash
    sender := signer.address
    chainId := tx.envelope.chainId.getD 0 }

end UnsignedTx
end TxForge
