import TxForge.Signed

/-!
# Validating signed transactions

The checks a transaction has to pass before it is handed out, in the order in which they are made:
gas, fees, cost, chain, signature.  The cost is worked out in 256 bits, step by step, and every
step that does not fit refuses the transaction.
-/

set_option autoImplicit false

namespace TxForge

/-- The gas that every transaction uses before it starts to run. -/
def intrinsicGas : Nat := 21000

/-- The first check that a transaction does not pass. -/
inductive ValidationError where
  | gasLimitBelowIntrinsic (gasLimit : Gas)
  | tipAboveFeeCap (tip feeCap : Price)
  | costOverflow
  | chainIdMismatch (expected : ChainId) (actual : Option ChainId)
  | invalidSignature
  | senderMismatch (expected recovered : Address)
deriving DecidableEq

namespace ValidationError

/-- A chain id that may be absent, as text. -/
def chainText : Option ChainId → String
  | some chainId => "Some(" ++ toString chainId.toNat ++ ")"
  | none => "None"

/-- The error as text. -/
def message : ValidationError → String
  | .gasLimitBelowIntrinsic gasLimit =>
    "gas limit " ++ toString gasLimit.toNat ++ " is below the intrinsic cost of " ++
      toString intrinsicGas
  | .tipAboveFeeCap tip feeCap =>
    "max priority fee per gas " ++ toString tip.toNat ++ " exceeds max fee per gas " ++
      toString feeCap.toNat
  | .costOverflow => "gas limit * fee cap + value overflows 256 bits"
  | .chainIdMismatch expected actual =>
    "transaction chain id " ++ chainText actual ++ " does not match " ++ toString expected.toNat
  | .invalidSignature => "invalid signature"
  | .senderMismatch expected recovered =>
    "signature recovers to " ++ recovered.checksummed ++ ", expected " ++ expected.checksummed

/-- The messages of what lies behind the error. -/
def causes : ValidationError → List String
  | .invalidSignature => ["signature error"]
  | _ => []

end ValidationError

namespace Envelope

/-- The tip, if it is higher than the fee cap. -/
def excessTip? (e : Envelope) : Option Price :=
  e.tip?.filter fun tip => e.feeCap.toNat < tip.toNat

/-- The most that the transaction may cost its sender, unless that takes more than 256 bits. -/
def cost? (e : Envelope) : Option Wei :=
  (bounded? 256 (e.gasLimit.toNat * e.feeCap.toNat)).bind fun fee =>
    bounded? 256 (fee.toNat + e.value.toNat)

end Envelope

namespace SignedTx

/-- The signature was made by the recorded sender. -/
def checkSender (tx : SignedTx) : Except ValidationError Unit :=
  match tx.recover? with
  | none => .error .invalidSignature
  | some recovered =>
    if recovered = tx.sender then .ok () else .error (.senderMismatch tx.sender recovered)

/-- Makes all checks and names the first that fails. -/
def validate (tx : SignedTx) : Except ValidationError Unit :=
  let e := tx.envelope
  if e.gasLimit.toNat < intrinsicGas then .error (.gasLimitBelowIntrinsic e.gasLimit)
  else
    match e.excessTip? with
    | some tip => .error (.tipAboveFeeCap tip e.feeCap)
    | none =>
      match e.cost? with
      | none => .error .costOverflow
      | some _ =>
        if e.chainId = some tx.chainId then tx.checkSender
        else .error (.chainIdMismatch tx.chainId e.chainId)

end SignedTx
end TxForge
