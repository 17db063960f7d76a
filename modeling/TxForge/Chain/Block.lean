import TxForge.Chain.Block.Transaction

/-!
# Blocks of a node

A block as a node replies with it, of which only the base fee is of interest.  A reply that is no
well-formed block has no base fee to be read, so the other members are tested too.

The uncles and the withdrawals are tested while the text of a block is read.  The members of the
header and the transactions are held first: which of them belong to the header, and in which of
two forms the transactions are listed, only shows when they are all there.  This makes a difference
to the surplus items that `TxForge.Json.Shape` speaks of.
-/

set_option autoImplicit false

namespace TxForge
namespace Block

open Json (Shape)

/-! ## Members -/

/-- The members of a header. -/
def header : Shape :=
  .object [("ommersHash", "sha3Uncles"), ("beneficiary", "miner")]
    [("hash", .fixed 32), ("parentHash", .fixed 32), ("sha3Uncles", .fixed 32),
      ("miner", .fixed 20), ("stateRoot", .fixed 32), ("transactionsRoot", .fixed 32),
      ("receiptsRoot", .fixed 32), ("logsBloom", .fixed 256), ("difficulty", .number 256),
      ("number", .number 64), ("gasLimit", .number 64), ("gasUsed", .number 64),
      ("timestamp", .number 64), ("extraData", .bytes), ("mixHash", .fixed 32),
      ("nonce", .fixed 8)]
    [("baseFeePerGas", .orNull (.number 64)), ("withdrawalsRoot", .orNull (.fixed 32)),
      ("blobGasUsed", .orNull (.number 64)), ("excessBlobGas", .orNull (.number 64)),
      ("parentBeaconBlockRoot", .orNull (.fixed 32)), ("requestsHash", .orNull (.fixed 32)),
      ("totalDifficulty", .orNull (.number 256)), ("size", .orNull (.number 256))]

/-- A withdrawal. -/
def withdrawal : Shape :=
  .record [("index", .number 64), ("validatorIndex", .number 64), ("address", .fixed 20),
    ("amount", .number 64)]

/-- The lists of a block that are tested while its text is read. -/
def lists : Shape :=
  .object [] []
    [("uncles", .list (.fixed 32)), ("withdrawals", .orNull (.list withdrawal))]

/-- The transactions of a block, if it lists them by their hashes. -/
def hashes : Shape :=
  .object [] [] [("transactions", .orNull (.list (.fixed 32)))]

/-- The block lists its transactions in full. -/
def hasFullTransactions (members : List (Json.Literal × Json)) : Bool :=
  match members.lookup (some "transactions") with
  | some (.array items) => items.all Transaction.isWellFormed
  | _ => false

/-! ## Blocks -/

/-- The value is a well-formed block. -/
def isWellFormed : Json → Bool
  | v@(.object members) =>
    header.fits Json.isNoByte v && lists.fits Json.isPlainNoByte v &&
      (hashes.fits Json.isNoByte v || hasFullTransactions members)
  | _ => false

/-- The base fee of a well-formed block, which may be without one. -/
def baseFee? : Json → Option (Option (BitVec 64))
  | v@(.object members) =>
    if isWellFormed v then
      Json.optional? (Json.quantity? 64) (members.lookup (some "baseFeePerGas"))
    else none
  | _ => none

/-- A string of `n` zero bytes. -/
def zeros (n : Nat) : Json :=
  .ofText (Hex.encode (List.replicate n 0))

/-- The number zero. -/
def zero : Json :=
  .ofText "0x0"

/-- A block with nothing in it but the given base fee. -/
def blank (baseFee : Option Json) : Json :=
  .record ([("hash", zeros 32), ("parentHash", zeros 32), ("sha3Uncles", zeros 32),
    ("miner", zeros 20), ("stateRoot", zeros 32), ("transactionsRoot", zeros 32),
    ("receiptsRoot", zeros 32), ("logsBloom", zeros 256), ("difficulty", zero), ("number", zero),
    ("gasLimit", zero), ("gasUsed", zero), ("timestamp", zero), ("extraData", .ofText "0x"),
    ("mixHash", zeros 32), ("nonce", zeros 8), ("transactions", .array []), ("uncles", .array [])] ++
    baseFee.toList.map fun v => ("baseFeePerGas", v))

end Block
end TxForge
