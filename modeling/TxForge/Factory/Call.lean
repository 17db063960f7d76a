import TxForge.Factory

/-!
# Calls to a factory

All that can be asked of a factory, each with what the caller hands over.  What a factory does from
call to call can then be said of lists of calls.
-/

set_option autoImplicit false

namespace TxForge
namespace Factory

/-- A call to a factory. -/
inductive Call where
  /-- The chain that transactions are built for. -/
  | chainId
  | defaultArgs (sender : Address) (type : TxType) (args : TxArgs)
  | populate (sender : Address) (args : TxArgs)
  | estimateGasLimit (caller : Option Address) (args : TxArgs)
  | unsignedTx (signer : Signer) (args : TxArgs)
  | sign (signer : Signer) (tx : UnsignedTx)
  | uncheckedTx (signer : Signer) (args : TxArgs)
  | signedTx (signer : Signer) (args : TxArgs)
  | chainMessage (signer : Signer) (args : TxArgs)

namespace Call

/-- What the call returns if it succeeds. -/
abbrev Result : Call → Type
  | .chainId => ChainId
  | .defaultArgs .. | .populate .. => TxArgs
  | .estimateGasLimit .. => Gas
  | .unsignedTx .. => UnsignedTx
  | .sign .. | .uncheckedTx .. | .signedTx .. => SignedTx
  | .chainMessage .. => ChainMessage

/-- What the factory does for the call. -/
def operation (f : Factory) : (call : Call) → Operation call.Result
  | .chainId => pure f.chainId
  | .defaultArgs sender type args => f.defaultArgs sender type args
  | .populate sender args => f.populate sender args
  | .estimateGasLimit caller args => f.estimateGasLimit caller args
  | .unsignedTx signer args => f.unsignedTx signer args
  | .sign signer tx => Operation.ofExcept id (Factory.sign signer tx)
  | .uncheckedTx signer args => f.uncheckedTx signer args
  | .signedTx signer args => f.signedTx signer args
  | .chainMessage signer args => f.chainMessage signer args

end Call
end Factory
end TxForge
