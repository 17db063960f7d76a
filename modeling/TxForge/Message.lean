import TxForge.Signed

/-!
# Chain messages

A transaction as a chain sees it when it runs it without adding it to a block: with the sender that
its signature gives away, and with one gas price, worked out for a base fee.
-/

set_option autoImplicit false

namespace TxForge

/-- What a chain runs. -/
structure ChainMessage where
  sender : Address
  recipient : Option Address
  nonce : Nonce
  value : Wei
  gasLimit : Gas
  /-- What is paid per unit of gas. -/
  gasPrice : Price
  feeCap : Price
  tipCap : Price
  input : Bytes
  accessList : AccessList
deriving DecidableEq

/-- The rules of one chain for telling who sent a transaction. -/
structure SignerContext where
  chainId : ChainId
deriving DecidableEq

/-- Why a context does not name a sender. -/
inductive SignerContextError where
  | chainIdMismatch (expected actual : ChainId)
  | recovery
deriving DecidableEq

namespace SignerContextError

/-- The error as text. -/
def message : SignerContextError → String
  | .chainIdMismatch expected actual =>
    "transaction is bound to chain " ++ toString actual.toNat ++ ", signer expects chain " ++
      toString expected.toNat
  | .recovery => "failed to recover sender"

/-- The messages of what lies behind the error. -/
def causes : SignerContextError → List String
  | .chainIdMismatch .. => []
  | .recovery => ["signature error"]

end SignerContextError

namespace SignerContext

/-- The sender of a transaction, which has to be bound to this chain or to none. -/
def sender (context : SignerContext) (tx : SignedTx) : Except SignerContextError Address :=
  match tx.envelope.chainId with
  | some actual =>
    if actual = context.chainId then recovered tx
    else .error (.chainIdMismatch context.chainId actual)
  | none => recovered tx
where
  /-- The address that made the signature. -/
  recovered (tx : SignedTx) : Except SignerContextError Address :=
    match tx.recover? with
    | some address => .ok address
    | none => .error .recovery

end SignerContext

namespace Envelope

/-- What is paid per unit of gas at a base fee: base fee and tip, up to the fee cap.  Without a base
fee, and where the type does not tell the two apart, it is the fee cap. -/
def gasPriceAt (e : Envelope) (baseFee : Option Price) : Price :=
  match e.tip?, baseFee with
  | some tip, some baseFee =>
    let wanted := saturated 128 (baseFee.toNat + tip.toNat)
    if wanted.toNat < e.feeCap.toNat then wanted else e.feeCap
  | _, _ => e.feeCap

end Envelope

namespace SignedTx

/-- The message that the transaction amounts to at a base fee. -/
def toMessage (tx : SignedTx) (context : SignerContext) (baseFee : Option Price) :
    Except SignerContextError ChainMessage := do
  let sender ← context.sender tx
  let e := tx.envelope
  return {
    sender
    recipient := e.recipient
    nonce := e.nonce
    value := e.value
    gasLimit := e.gasLimit
    gasPrice := e.gasPriceAt baseFee
    feeCap := e.feeCap
    tipCap := e.tip?.getD e.feeCap
    input := e.input
    accessList := e.accessList?.getD [] }

theorem recovered_eq_ok {tx : SignedTx} {address : Address} :
    SignerContext.sender.recovered tx = .ok address ↔ tx.recover? = some address := by
  rw [SignerContext.sender.recovered]
  cases tx.recover? <;> simp

end SignedTx
end TxForge
