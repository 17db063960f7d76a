import TxForge.AccessList
import TxForge.Signature
import TxForge.TxType

/-!
# Transactions without their signature

The five types of transactions with all their fields.  Types differ in what they pay and declare:
a legacy transaction alone may leave its chain open, the first two types name one gas price and
the others a fee cap and a tip, and the last two always have a recipient.
-/

set_option autoImplicit false

namespace TxForge

/-- A transaction of the first type. -/
structure LegacyTx where
  /-- The chain it is bound to; without one it counts on every chain. -/
  chainId : Option ChainId
  nonce : Nonce
  gasPrice : Price
  gasLimit : Gas
  /-- The recipient; none creates a contract. -/
  recipient : Option Address
  value : Wei
  input : Bytes
deriving DecidableEq

/-- A transaction that declares what it accesses. -/
structure AccessListTx where
  chainId : ChainId
  nonce : Nonce
  gasPrice : Price
  gasLimit : Gas
  recipient : Option Address
  value : Wei
  input : Bytes
  accessList : AccessList
deriving DecidableEq

/-- A transaction that pays the base fee of its block and a tip. -/
structure DynamicFeeTx where
  chainId : ChainId
  nonce : Nonce
  maxPriorityFeePerGas : Price
  maxFeePerGas : Price
  gasLimit : Gas
  recipient : Option Address
  value : Wei
  input : Bytes
  accessList : AccessList
deriving DecidableEq

/-- A transaction that carries blobs, of which it holds the hashes.  The form that has the blobs
themselves beside it, with their commitments and proofs, is left out: no args become one, and what
is signed and hashed does not depend on it. -/
structure BlobTx where
  chainId : ChainId
  nonce : Nonce
  maxPriorityFeePerGas : Price
  maxFeePerGas : Price
  gasLimit : Gas
  recipient : Address
  value : Wei
  input : Bytes
  accessList : AccessList
  maxFeePerBlobGas : Price
  blobHashes : List Word
deriving DecidableEq

/-- The permission, signed by an account, to run the code at an address as its own. -/
structure Authorization where
  chainId : Wei
  address : Address
  nonce : Nonce
  yParity : UInt8
  r : Scalar
  s : Scalar
deriving DecidableEq

/-- A transaction that sets the code of accounts. -/
structure SetCodeTx where
  chainId : ChainId
  nonce : Nonce
  maxPriorityFeePerGas : Price
  maxFeePerGas : Price
  gasLimit : Gas
  recipient : Address
  value : Wei
  input : Bytes
  accessList : AccessList
  authorizations : List Authorization
deriving DecidableEq

/-- A transaction of any type. -/
inductive Envelope where
  | legacy (tx : LegacyTx)
  | accessList (tx : AccessListTx)
  | dynamicFee (tx : DynamicFeeTx)
  | blob (tx : BlobTx)
  | setCode (tx : SetCodeTx)
deriving DecidableEq

namespace Envelope

/-! ## Fields that every type has in one form or another -/

/-- The type of the transaction. -/
def txType : Envelope → TxType
  | .legacy _ => .legacy
  | .accessList _ => .accessList
  | .dynamicFee _ => .dynamicFee
  | .blob _ => .blob
  | .setCode _ => .setCode

/-- The chain that the transaction is bound to. -/
def chainId : Envelope → Option ChainId
  | .legacy tx => tx.chainId
  | .accessList tx => some tx.chainId
  | .dynamicFee tx => some tx.chainId
  | .blob tx => some tx.chainId
  | .setCode tx => some tx.chainId

/-- The nonce of the sender. -/
def nonce : Envelope → Nonce
  | .legacy tx => tx.nonce
  | .accessList tx => tx.nonce
  | .dynamicFee tx => tx.nonce
  | .blob tx => tx.nonce
  | .setCode tx => tx.nonce

/-- The most gas that may be used. -/
def gasLimit : Envelope → Gas
  | .legacy tx => tx.gasLimit
  | .accessList tx => tx.gasLimit
  | .dynamicFee tx => tx.gasLimit
  | .blob tx => tx.gasLimit
  | .setCode tx => tx.gasLimit

/-- The most that may be paid per unit of gas. -/
def feeCap : Envelope → Price
  | .legacy tx => tx.gasPrice
  | .accessList tx => tx.gasPrice
  | .dynamicFee tx => tx.maxFeePerGas
  | .blob tx => tx.maxFeePerGas
  | .setCode tx => tx.maxFeePerGas

/-- The most that may be paid above the base fee, where the type tells them apart. -/
def tip? : Envelope → Option Price
  | .legacy _ => none
  | .accessList _ => none
  | .dynamicFee tx => some tx.maxPriorityFeePerGas
  | .blob tx => some tx.maxPriorityFeePerGas
  | .setCode tx => some tx.maxPriorityFeePerGas

/-- The recipient; none creates a contract. -/
def recipient : Envelope → Option Address
  | .legacy tx => tx.recipient
  | .accessList tx => tx.recipient
  | .dynamicFee tx => tx.recipient
  | .blob tx => some tx.recipient
  | .setCode tx => some tx.recipient

/-- The amount that is sent. -/
def value : Envelope → Wei
  | .legacy tx => tx.value
  | .accessList tx => tx.value
  | .dynamicFee tx => tx.value
  | .blob tx => tx.value
  | .setCode tx => tx.value

/-- The data of the call, or the code that creates the contract. -/
def input : Envelope → Bytes
  | .legacy tx => tx.input
  | .accessList tx => tx.input
  | .dynamicFee tx => tx.input
  | .blob tx => tx.input
  | .setCode tx => tx.input

/-- The access list, where the type has one. -/
def accessList? : Envelope → Option AccessList
  | .legacy _ => none
  | .accessList tx => some tx.accessList
  | .dynamicFee tx => some tx.accessList
  | .blob tx => some tx.accessList
  | .setCode tx => some tx.accessList

end Envelope
end TxForge
