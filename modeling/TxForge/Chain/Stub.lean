import TxForge.Chain.CallRequest

/-!
# A chain in memory

Answers every query with a fixed value and keeps a record of what it was asked.  Any kind of query
can be made to fail from some moment on.
-/

set_option autoImplicit false

namespace TxForge

/-- The values that queries are answered with. -/
structure StubValues where
  nonce : Nonce := 3
  baseFee : Price := 875000000
  maxPriorityFee : Price := 1000000
  estimatedGas : Gas := 21000
deriving DecidableEq

/-- The chain with its record. -/
structure Stub where
  values : StubValues := {}
  /-- The kinds of queries that fail. -/
  failing : List QueryKind := []
  /-- The kinds of the queries so far, in order. -/
  calls : List QueryKind := []
  /-- The estimations that were understood so far, with their gas caps, in order. -/
  estimations : List (CallRequest × Gas) := []

namespace Stub

/-- Makes all queries of a kind fail from now on. -/
def fail (s : Stub) (kind : QueryKind) : Stub :=
  { s with failing := kind :: s.failing }

/-- The stub with one more query on record. -/
def record (s : Stub) (kind : QueryKind) : Stub :=
  { s with calls := s.calls ++ [kind] }

/-- The failure that queries of a kind end in. -/
def failure (kind : QueryKind) : Failure :=
  ⟨"stubbed " ++ kind.name ++ " failure", []⟩

/-- Answers an estimation: with the fixed value, but never with more than the cap. -/
def estimate (s : Stub) (request : String) (gasCap : Gas) : Except Failure Gas × Stub :=
  match CallRequest.ofText request "malformed estimation request" with
  | .error f => (.error f, s)
  | .ok r =>
    let gas := if s.values.estimatedGas.toNat ≤ gasCap.toNat then s.values.estimatedGas else gasCap
    (.ok gas, { s with estimations := s.estimations ++ [(r, gasCap)] })

/-- The answer to a query that does not fail. -/
def respond (s : Stub) : (q : Query) → q.Reply × Stub
  | .estimateGas request gasCap => s.estimate request gasCap
  | .baseFee => (.ok s.values.baseFee, s)
  | .nonce _ => (.ok s.values.nonce, s)
  | .maxPriorityFee => (.ok s.values.maxPriorityFee, s)

/-- The stub as a chain. -/
def chain : Chain Stub where
  answer q s :=
    let s := s.record q.kind
    if q.kind ∈ s.failing then (.error (failure q.kind), s) else s.respond q

/-! ## Laws -/

variable {s : Stub} {q : Query} {request : String}

theorem answer_of_failing (h : q.kind ∈ s.failing) :
    chain.answer q s = (.error (failure q.kind), s.record q.kind) :=
  if_pos h

theorem answer_of_not_failing (h : q.kind ∉ s.failing) :
    chain.answer q s = (s.record q.kind).respond q :=
  if_neg h

theorem estimate_of_ok {r : CallRequest}
    (h : CallRequest.ofText request "malformed estimation request" = .ok r) (gasCap : Gas) :
    s.estimate request gasCap =
      (.ok (if s.values.estimatedGas.toNat ≤ gasCap.toNat then s.values.estimatedGas else gasCap),
        { s with estimations := s.estimations ++ [(r, gasCap)] }) := by
  rw [estimate, h]

theorem estimate_of_error {f : Failure}
    (h : CallRequest.ofText request "malformed estimation request" = .error f) (gasCap : Gas) :
    s.estimate request gasCap = (.error f, s) := by
  rw [estimate, h]

/-! ## Records -/

/-- What a query adds to the estimations on record: one if it is understood. -/
def noted (s : Stub) : Query → List (CallRequest × Gas)
  | .estimateGas request gasCap =>
    if .estimateGas ∈ s.failing then []
    else match CallRequest.ofText request "malformed estimation request" with
      | .ok r => [(r, gasCap)]
      | .error _ => []
  | _ => []

/-- The stub with queries on record. -/
def recordAll (s : Stub) (queries : List Query) : Stub :=
  { s with
    calls := s.calls ++ queries.map Query.kind
    estimations := s.estimations ++ queries.flatMap s.noted }

/-- One query leaves nothing but its record. -/
theorem state_answer (q : Query) (s : Stub) : (Stub.chain.answer q s).2 = s.recordAll [q] := by
  by_cases hfailing : q.kind ∈ s.failing
  · rw [answer_of_failing hfailing]
    cases q with
    | estimateGas request gasCap =>
      have hnoted : s.noted (.estimateGas request gasCap) = [] := if_pos hfailing
      simp [recordAll, record, hnoted]
    | baseFee | nonce account | maxPriorityFee => simp [recordAll, record, noted]
  · rw [answer_of_not_failing hfailing]
    cases q with
    | estimateGas request gasCap =>
      have hnoted : s.noted (.estimateGas request gasCap) = _ := if_neg hfailing
      rw [respond]
      cases hread : CallRequest.ofText request "malformed estimation request" with
      | error failure =>
        rw [estimate_of_error hread]
        simp [recordAll, record, hnoted, hread]
      | ok r =>
        rw [estimate_of_ok hread]
        simp [recordAll, record, hnoted, hread]
    | baseFee | nonce account | maxPriorityFee => simp [respond, recordAll, record, noted]

end Stub
end TxForge
