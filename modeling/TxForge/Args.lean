import TxForge.AccessList
import TxForge.TxType

/-!
# Transaction args

What a caller says about a transaction: any of its fields, in any combination.  Which type of
transaction is meant follows from the fields that are set.
-/

set_option autoImplicit false

namespace TxForge

/-- The fields of a transaction as a caller sees them.  A field that is `none` is left to
defaulting. -/
structure TxArgs where
  chainId : Option ChainId := none
  nonce : Option Nonce := none
  /-- The recipient; none creates a contract. -/
  recipient : Option Address := none
  input : Bytes := []
  value : Wei := 0
  gasLimit : Option Gas := none
  gasPrice : Option Price := none
  maxFeePerGas : Option Price := none
  maxPriorityFeePerGas : Option Price := none
  accessList : Option AccessList := none
deriving DecidableEq

namespace TxArgs

/-- Names a field of the args. -/
inductive Field where
  | chainId
  | nonce
  | recipient
  | input
  | value
  | gasLimit
  | gasPrice
  | maxFeePerGas
  | maxPriorityFeePerGas
  | accessList
deriving DecidableEq

namespace Field

/-- The fields in the order they are declared. -/
def all : List Field :=
  [.chainId, .nonce, .recipient, .input, .value, .gasLimit, .gasPrice, .maxFeePerGas,
    .maxPriorityFeePerGas, .accessList]

/-- The name of the field in messages. -/
def name : Field → String
  | .chainId => "chain_id"
  | .nonce => "nonce"
  | .recipient => "to"
  | .input => "input"
  | .value => "value"
  | .gasLimit => "gas_limit"
  | .gasPrice => "gas_price"
  | .maxFeePerGas => "max_fee_per_gas"
  | .maxPriorityFeePerGas => "max_priority_fee_per_gas"
  | .accessList => "access_list"

/-- The key of the field in JSON. -/
def key : Field → String
  | .chainId => "chainId"
  | .nonce => "nonce"
  | .recipient => "to"
  | .input => "input"
  | .value => "value"
  | .gasLimit => "gasLimit"
  | .gasPrice => "gasPrice"
  | .maxFeePerGas => "maxFeePerGas"
  | .maxPriorityFeePerGas => "maxPriorityFeePerGas"
  | .accessList => "accessList"

end Field

/-- The type that the fee fields and the access list ask for: a dynamic fee wins over an access
list, and without either the transaction is a legacy one. -/
def impliedType (args : TxArgs) : SupportedType :=
  if args.maxFeePerGas.isSome ∨ args.maxPriorityFeePerGas.isSome then .dynamicFee
  else if args.accessList.isSome then .accessList
  else .legacy

/-- The first field of the args that has no place in a transaction of the given type. -/
def foreignField? (type : SupportedType) (args : TxArgs) : Option Field :=
  match type with
  | .dynamicFee => if args.gasPrice.isSome then some .gasPrice else none
  | _ =>
    if args.maxFeePerGas.isSome then some .maxFeePerGas
    else if args.maxPriorityFeePerGas.isSome then some .maxPriorityFeePerGas
    else if type = .legacy ∧ args.accessList.isSome then some .accessList
    else none

end TxArgs
end TxForge
