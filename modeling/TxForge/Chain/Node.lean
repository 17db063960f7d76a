import TxForge.Chain.Block
import TxForge.Chain.CallRequest
import TxForge.Json.Kept

/-!
# A chain behind a JSON-RPC node

Puts queries to a node as remote calls and reads the numbers out of what it replies.  An estimation
is only sent if its request can be read; it is sent with the gas cap as its gas, so the node does
not look for an estimate beyond the cap.
-/

set_option autoImplicit false

namespace TxForge

/-- A remote call. -/
structure RpcCall where
  method : String
  /-- The parameters, if the method takes any. -/
  params : Option Json

namespace RpcCall

/-- The parameters as JSON text, empty if there are none. -/
def paramsText (call : RpcCall) : String :=
  match call.params with
  | some params => params.render
  | none => ""

end RpcCall

/-- What a node replies. -/
inductive RpcReply where
  /-- Some value. -/
  | value (v : Json)
  /-- An error of the node, with further data if it gives any. -/
  | failure (code : Int) (message : String) (data : Option Json)

namespace RpcReply

/-- Reads a reply: an object with a result, or with an error that has a code, a message and perhaps
data.  Values are taken as they are kept. -/
def ofJson? : Json → Option RpcReply
  | .object members =>
    match members.lookup (some "result"), members.lookup (some "error") with
    | some result, _ => result.keep?.map .value
    | none, some (.object parts) => do
      let code ← Json.required? Json.integer? (parts.lookup (some "code"))
      let message ← Json.required? Json.text? (parts.lookup (some "message"))
      let data ← Json.optional? Json.keep? (parts.lookup (some "data"))
      return .failure code message data
    | none, _ => none
  | _ => none

/-- The failure of a reply that is not of the expected form. -/
def malformed : Failure :=
  ⟨"malformed response", []⟩

/-- The failure that an error of the node amounts to. -/
def nodeFailure (code : Int) (message : String) (data : Option Json) : Failure :=
  let detail :=
    match data with
    | some data => ", data: " ++ data.render
    | none => ""
  ⟨"server returned an error response: error code " ++ toString code ++ ": " ++ message ++ detail,
    []⟩

/-- Reads a reply that is a number. -/
def quantity (width : Nat) : RpcReply → Except Failure (BitVec width)
  | .value v =>
    match v.quantity? width with
    | some n => .ok n
    | none => .error malformed
  | .failure code message data => .error (nodeFailure code message data)

/-- Reads the base fee out of a reply that is a block.  Base fees have 64 bits on the wire. -/
def baseFee : RpcReply → Except Failure Price
  | .value .null => .error ⟨"latest block is not available", []⟩
  | .value v =>
    match Block.baseFee? v with
    | some (some fee) => .ok (fee.setWidth 128)
    | some none => .error ⟨"latest block has no base fee", []⟩
    | none => .error malformed
  | .failure code message data => .error (nodeFailure code message data)

end RpcReply

/-- A node with states `ν`: it replies to calls and may change its state with each. -/
structure Node (ν : Type) where
  reply : RpcCall → ν → RpcReply × ν

/-- A query with the call that it was put to the node as, if it came to that. -/
structure Exchange where
  query : Query
  call : Option RpcCall

/-- The state of a node, and the record of what it was asked, in order. -/
structure NodeState (ν : Type) where
  inner : ν
  exchanges : List Exchange := []

namespace Query

/-- The call that a query amounts to.  Only an estimation can fail to amount to one. -/
def rpcCall : Query → Except Failure RpcCall
  | .estimateGas request gasCap => do
    let r ← CallRequest.ofText request "failed to decode estimation request"
    let r := { r with gas := some gasCap }
    return ⟨"eth_estimateGas", some (.array [r.toJson, .ofText "pending"])⟩
  | .baseFee =>
    .ok ⟨"eth_getBlockByNumber", some (.array [.ofText "latest", .bool false])⟩
  | .nonce account =>
    .ok ⟨"eth_getTransactionCount", some (.array [AccessList.hexJson account, .ofText "latest"])⟩
  | .maxPriorityFee => .ok ⟨"eth_maxPriorityFeePerGas", none⟩

/-- The answer that the reply of a node holds. -/
def ofRpcReply : (q : Query) → RpcReply → q.Reply
  | .estimateGas .. => RpcReply.quantity 64
  | .baseFee => RpcReply.baseFee
  | .nonce _ => RpcReply.quantity 64
  | .maxPriorityFee => RpcReply.quantity 128

end Query

namespace Node

/-- The node as a chain. -/
def chain {ν : Type} (node : Node ν) : Chain (NodeState ν) where
  answer q s :=
    match q.rpcCall with
    | .error f => (.error f, { s with exchanges := s.exchanges ++ [⟨q, none⟩] })
    | .ok call =>
      let (reply, inner) := node.reply call s.inner
      (q.ofRpcReply reply, { inner, exchanges := s.exchanges ++ [⟨q, some call⟩] })

end Node
end TxForge
