import TxForge.Args.Json
import TxForge.Chain.CallRequest
import TxForge.Factory.Config
import TxForge.Factory.Dialogue

/-!
# The factory

Builds complete, signed transactions out of args, and asks the chain for every field that the
caller left unset.  Nothing is sent to the chain.

Fields are filled in the order chain id, nonce, tip, fee cap, gas limit, and the first query that
fails ends the work.  A field that the caller set is never overwritten, and one that has no place
in the type of the transaction is refused before anything is asked.
-/

set_option autoImplicit false

namespace TxForge

/-- The gas price of legacy and access-list transactions asked for without one. -/
def defaultGasPrice : Price := 1000000000

/-- A factory for the transactions of one chain. -/
structure Factory where
  chainId : ChainId
  config : FactoryConfig := {}

namespace Factory

/-! ## Estimating gas -/

/-- The request for an estimation: a call with the recipient, input and access list of the args.
Fees, nonce and value are no part of it. -/
def estimationRequest (caller : Option Address) (args : TxArgs) : CallRequest where
  caller
  recipient := args.recipient
  input := some args.input
  accessList := args.accessList

/-- Estimates the gas that the call of the args uses. -/
def estimateGasLimit (f : Factory) (caller : Option Address) (args : TxArgs) : Operation Gas := do
  Operation.report .estimating
  let request := (estimationRequest caller args).toText
  match ← Operation.attempt (.estimateGas request f.config.gasCap) with
  | .ok gas =>
    Operation.report (.estimated caller args.recipient gas)
    return gas
  | .error failure =>
    Operation.report (.estimationFailed caller args.recipient failure)
    throw (.estimation failure)

/-! ## Filling in fields -/

/-- Refuses args with a field that has no place in the type. -/
def checkFields (type : SupportedType) (args : TxArgs) : Except FactoryError Unit :=
  match args.foreignField? type with
  | some field => .error (.fieldNotAllowed type field)
  | none => .ok ()

/-- The args with a nonce. -/
def fillNonce (sender : Address) (args : TxArgs) : Operation TxArgs :=
  match args.nonce with
  | some _ => return args
  | none => do
    let nonce ← Operation.ask (.nonce sender) (.defaulting .nonce)
    Operation.report (.defaultedNonce sender nonce)
    return { args with nonce := some nonce }

/-- The tip of the args, or the one that the chain suggests. -/
def tipFor (sender : Address) (args : TxArgs) : Operation Price :=
  match args.maxPriorityFeePerGas with
  | some tip => return tip
  | none => do
    let tip ← Operation.ask .maxPriorityFee (.defaulting .maxPriorityFeePerGas)
    Operation.report (.defaultedTip sender tip)
    return tip

/-- The fee cap of the args, or base fee and tip together. -/
def feeCapFor (sender : Address) (tip : Price) (args : TxArgs) : Operation Price :=
  match args.maxFeePerGas with
  | some feeCap => return feeCap
  | none => do
    let baseFee ← Operation.ask .baseFee (.defaulting .maxFeePerGas)
    let feeCap := saturated 128 (baseFee.toNat + tip.toNat)
    Operation.report (.defaultedFeeCap sender baseFee feeCap)
    return feeCap

/-- The args with the prices that the type needs.  A gas price has no value on the chain that could
stand in for it. -/
def fillPrices (sender : Address) (type : SupportedType) (args : TxArgs) : Operation TxArgs :=
  match type with
  | .dynamicFee => do
    let tip ← tipFor sender args
    let feeCap ← feeCapFor sender tip args
    return { args with maxPriorityFeePerGas := some tip, maxFeePerGas := some feeCap }
  | _ => if args.gasPrice.isSome then return args else throw (.assembly ⟨.gasPrice⟩)

/-- The args with a gas limit. -/
def fillGasLimit (f : Factory) (sender : Address) (args : TxArgs) : Operation TxArgs :=
  match args.gasLimit with
  | some _ => return args
  | none => do
    let gasLimit ← (f.estimateGasLimit (some sender) args).adapt .defaultingGasLimit
    return { args with gasLimit := some gasLimit }

/-- The args with every field that a transaction of the type needs. -/
def populateFor (f : Factory) (sender : Address) (type : SupportedType) (args : TxArgs) :
    Operation TxArgs := do
  let args := { args with chainId := some (args.chainId.getD f.chainId) }
  let args ← fillNonce sender args
  let args ← fillPrices sender type args
  f.fillGasLimit sender args

/-- The type that args are filled in for: the one they imply if they name a gas price, else a
dynamic-fee transaction. -/
def typeFor (args : TxArgs) : SupportedType :=
  if args.gasPrice.isSome then args.impliedType else .dynamicFee

/-- Fills in every field that the sender needs to sign the args. -/
def populate (f : Factory) (sender : Address) (args : TxArgs) : Operation TxArgs := do
  Operation.ofExcept id (checkFields (typeFor args) args)
  f.populateFor sender (typeFor args) args

/-- The args with what a type has without asking a chain: a gas price, and an access list that
stands in for a missing one. -/
def withLiterals (sender : Address) (type : SupportedType) (args : TxArgs) : TxArgs :=
  match type with
  | .dynamicFee => args
  | .accessList =>
    { args with
      gasPrice := some (args.gasPrice.getD defaultGasPrice)
      accessList := some (args.accessList.getD (AccessList.placeholder sender)) }
  | .legacy => { args with gasPrice := some (args.gasPrice.getD defaultGasPrice) }

/-- Fills in every field for a transaction of the given type, which alone decides what it pays. -/
def defaultArgs (f : Factory) (sender : Address) (type : TxType) (args : TxArgs) :
    Operation TxArgs :=
  match SupportedType.ofTxType type with
  | .error e => do
    Operation.report .unsupportedType
    throw (.unsupportedType e)
  | .ok type => do
    Operation.ofExcept id (checkFields type args)
    f.populateFor sender type (withLiterals sender type args)

/-! ## Building transactions -/

/-- Signs a transaction. -/
def sign (signer : Signer) (tx : UnsignedTx) : Except FactoryError SignedTx :=
  (tx.sign signer).mapError .signing

/-- The transaction that the args imply once they are filled in for the signer. -/
def unsignedTx (f : Factory) (signer : Signer) (args : TxArgs) : Operation UnsignedTx := do
  let args ← f.populate signer.address args
  Operation.ofExcept .assembly (UnsignedTx.ofArgs args)

/-- The same, signed, and not checked: a chain may well refuse it. -/
def uncheckedTx (f : Factory) (signer : Signer) (args : TxArgs) : Operation SignedTx := do
  let tx ← f.unsignedTx signer args
  Operation.ofExcept id (sign signer tx)

/-- The same, signed and checked. -/
def signedTx (f : Factory) (signer : Signer) (args : TxArgs) : Operation SignedTx := do
  let tx ← f.uncheckedTx signer args
  Operation.ofExcept .validation tx.validate
  Operation.report (.signed tx.sender tx.hash tx.envelope.txType)
  return tx

/-- The message that a signed transaction amounts to at the base fee of the chain. -/
def chainMessage (f : Factory) (signer : Signer) (args : TxArgs) : Operation ChainMessage := do
  let tx ← f.signedTx signer args
  let baseFee ← Operation.ask .baseFee .baseFee
  Operation.ofExcept .signerContext (tx.toMessage ⟨f.chainId⟩ (some baseFee))

end Factory
end TxForge
