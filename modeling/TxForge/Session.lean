import TxForge.Chain.Stub
import TxForge.Factory.Call

/-!
# Sessions

A factory at work with a chain in memory: calls, one after the other, and in between kinds of
queries that are made to fail.  The counters and the records of the chain go on from call to call.
What came of each call is kept beside them.
-/

set_option autoImplicit false

namespace TxForge

/-- A call and what came of it. -/
structure Factory.Turn where
  call : Factory.Call
  result : Except FactoryError call.Result
  transcript : List Entry

/-- Something that happens in a session. -/
inductive Session.Step where
  | call (call : Factory.Call)
  /-- All queries of the kind fail from now on. -/
  | fail (kind : QueryKind)

/-- A chain in memory, the counters, and the calls so far, in order. -/
structure Session where
  stub : Stub
  metrics : Metrics := {}
  turns : List Factory.Turn := []

namespace Session

/-- A session in which nothing has happened yet. -/
def start (values : StubValues) : Session where
  stub := { values }

/-- The session after one more step. -/
def step (f : Factory) (s : Session) : Step → Session
  | .call call =>
    let c := (call.operation f).hold Stub.chain s.stub
    { stub := c.state
      metrics := s.metrics.countAll c.events
      turns := s.turns ++ [⟨call, c.result, c.transcript⟩] }
  | .fail kind => { s with stub := s.stub.fail kind }

/-- The session after steps in their order. -/
def run (f : Factory) (s : Session) (steps : List Step) : Session :=
  steps.foldl (step f) s

/-- All that was asked and reported so far, in order. -/
def transcript (s : Session) : List Entry :=
  s.turns.flatMap Factory.Turn.transcript

end Session
end TxForge
