import TxForge.Args
import TxForge.Envelope.Wire

/-!
# Assembling transactions

Args become a transaction of the type they imply once every field is set that the type needs.  A
field that is missing is named, the first in the order chain id, nonce, gas limit, prices.
-/

set_option autoImplicit false

namespace TxForge

/-- A transaction that can be signed here. -/
inductive UnsignedTx where
  | legacy (tx : LegacyTx)
  | accessList (tx : AccessListTx)
  | dynamicFee (tx : DynamicFeeTx)
deriving DecidableEq

/-- The args lack a field that their type needs. -/
structure IncompleteArgs where
  missing : TxArgs.Field
deriving DecidableEq

namespace IncompleteArgs

/-- The error as text. -/
def message (e : IncompleteArgs) : String :=
  "missing `" ++ e.missing.name ++ "` in transaction args"

end IncompleteArgs

namespace UnsignedTx

/-- The transaction among those of all types. -/
def envelope : UnsignedTx → Envelope
  | .legacy tx => .legacy tx
  | .accessList tx => .accessList tx
  | .dynamicFee tx => .dynamicFee tx

/-- The type of the transaction. -/
def supportedType : UnsignedTx → SupportedType
  | .legacy _ => .legacy
  | .accessList _ => .accessList
  | .dynamicFee _ => .dynamicFee

/-- The value of a field that has to be set. -/
def required {α : Type} (field : TxArgs.Field) : Option α → Except IncompleteArgs α
  | some a => .ok a
  | none => .error ⟨field⟩

/-- Assembles the transaction that the args imply. -/
def ofArgs (args : TxArgs) : Except IncompleteArgs UnsignedTx := do
  let chainId ← required .chainId args.chainId
  let nonce ← required .nonce args.nonce
  let gasLimit ← required .gasLimit args.gasLimit
  match args.impliedType with
  | .legacy =>
    let gasPrice ← required .gasPrice args.gasPrice
    return .legacy ⟨some chainId, nonce, gasPrice, gasLimit, args.recipient, args.value, args.input⟩
  | .accessList =>
    let gasPrice ← required .gasPrice args.gasPrice
    return .accessList ⟨chainId, nonce, gasPrice, gasLimit, args.recipient, args.value, args.input,
      args.accessList.getD []⟩
  | .dynamicFee =>
    let maxFeePerGas ← required .maxFeePerGas args.maxFeePerGas
    let maxPriorityFeePerGas ← required .maxPriorityFeePerGas args.maxPriorityFeePerGas
    return .dynamicFee ⟨chainId, nonce, maxPriorityFeePerGas, maxFeePerGas, gasLimit,
      args.recipient, args.value, args.input, args.accessList.getD []⟩

/-- The transaction bound to a chain, where it was open. -/
def bindChain (chainId : ChainId) : UnsignedTx → UnsignedTx
  | .legacy tx => .legacy { tx with chainId := some (tx.chainId.getD chainId) }
  | tx => tx

end UnsignedTx
end TxForge
