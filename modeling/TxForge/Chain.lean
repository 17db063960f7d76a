import TxForge.Bytes

/-!
# Chains that answer queries

Everything that is asked of a chain goes through four queries.  A chain is anything that answers
them, each with a number of its own width or with a failure, and it may change as it is asked.
-/

set_option autoImplicit false

namespace TxForge

/-- Why a query was not answered: a message, and the messages of what lies behind it, outermost
first. -/
structure Failure where
  message : String
  causes : List String := []
deriving DecidableEq

namespace Failure

/-- All messages, outermost first. -/
def chain (f : Failure) : List String :=
  f.message :: f.causes

/-- All messages on one line. -/
def inline (f : Failure) : String :=
  String.intercalate ": " f.chain

end Failure

/-- The kinds of queries. -/
inductive QueryKind where
  | estimateGas
  | baseFee
  | nonce
  | maxPriorityFee
deriving DecidableEq

namespace QueryKind

/-- The name of the kind. -/
def name : QueryKind → String
  | .estimateGas => "EstimateGas"
  | .baseFee => "BaseFee"
  | .nonce => "Nonce"
  | .maxPriorityFee => "MaxPriorityFee"

/-- How many bits an answer has. -/
def width : QueryKind → Nat
  | .estimateGas => 64
  | .baseFee => 128
  | .nonce => 64
  | .maxPriorityFee => 128

end QueryKind

/-- A question to a chain. -/
inductive Query where
  /-- The gas that a call uses, given as JSON text.  The estimate must not exceed the cap. -/
  | estimateGas (request : String) (gasCap : Gas)
  /-- The base fee of the latest block. -/
  | baseFee
  /-- The next nonce of an account. -/
  | nonce (account : Address)
  /-- The tip that the chain suggests. -/
  | maxPriorityFee
deriving DecidableEq

namespace Query

/-- The kind of the query. -/
def kind : Query → QueryKind
  | .estimateGas .. => .estimateGas
  | .baseFee => .baseFee
  | .nonce _ => .nonce
  | .maxPriorityFee => .maxPriorityFee

/-- An answer to the query. -/
abbrev Answer (q : Query) : Type :=
  BitVec q.kind.width

/-- An answer, or why there is none. -/
abbrev Reply (q : Query) : Type :=
  Except Failure q.Answer

end Query

/-- A chain with states `σ`: it answers queries and may change its state with each. -/
structure Chain (σ : Type) where
  answer : (q : Query) → σ → q.Reply × σ

end TxForge
