import Mathlib.Algebra.BigOperators.Group.List.Basic
import TxForge.Proofs.Bookkeeping

/-!
# Calls in another order

Calls to a factory share the chain that answers them, with its two records, and the counters.  Yet
no call can tell what was called before.  The records and the counters are written and never read:
a call appends to the first and adds to the second.

* `Event.gain` — the counters as a sum.  A sum does not depend on the order of what is added.
* `Factory.Mark`, `Factory.mark` — all that a call leaves behind.  It is a function of the call,
  once the values and the failing kinds are fixed (`Factory.mark_eq_of_agrees`).
* `Session.step_call` — a step appends the mark of its call.  A run appends one mark for each call
  (`Session.run_calls`), so two orders of the same calls append the same marks in two orders
  (`Session.exists_marks`).
-/

set_option autoImplicit false

namespace TxForge

/-! ## Counters add up -/

attribute [ext] Metrics

namespace Metrics

instance : Zero Metrics := ⟨{}⟩

instance : Add Metrics where
  add m n :=
    { signedTransactions := m.signedTransactions + n.signedTransactions
      gasEstimations := m.gasEstimations + n.gasEstimations
      failedGasEstimations := m.failedGasEstimations + n.failedGasEstimations
      unsupportedTypes := m.unsupportedTypes + n.unsupportedTypes
      latencies := m.latencies + n.latencies }

instance : AddCommMonoid Metrics where
  add_assoc _ _ _ := Metrics.ext (Nat.add_assoc ..) (Nat.add_assoc ..) (Nat.add_assoc ..)
    (Nat.add_assoc ..) (Nat.add_assoc ..)
  zero_add _ := Metrics.ext (Nat.zero_add _) (Nat.zero_add _) (Nat.zero_add _) (Nat.zero_add _)
    (Nat.zero_add _)
  add_zero _ := rfl
  add_comm _ _ := Metrics.ext (Nat.add_comm ..) (Nat.add_comm ..) (Nat.add_comm ..)
    (Nat.add_comm ..) (Nat.add_comm ..)
  nsmul := nsmulRec

end Metrics

/-- What the event adds to the counters. -/
def Event.gain (e : Event) : Metrics :=
  Metrics.count 0 e

namespace Metrics

theorem count_eq_add_gain (m : Metrics) (e : Event) : m.count e = m + e.gain := by
  cases e <;> rfl

/-- **The counters are a sum.** -/
theorem countAll_eq_add_sum (m : Metrics) (events : List Event) :
    m.countAll events = m + (events.map Event.gain).sum := by
  induction events generalizing m with
  | nil => exact (add_zero m).symm
  | cons e events ih =>
    calc m.countAll (e :: events)
        = (m.count e).countAll events := rfl
      _ = m + (e.gain + (events.map Event.gain).sum) := by rw [ih, count_eq_add_gain, add_assoc]
      _ = m + ((e :: events).map Event.gain).sum := by rw [List.map_cons, List.sum_cons]

end Metrics

/-! ## What a call leaves behind -/

namespace Factory

/-- All that a call leaves behind in a session. -/
structure Mark where
  /-- The call and what came of it. -/
  turn : Turn
  /-- What it appends to the calls on record. -/
  calls : List QueryKind
  /-- What it appends to the estimations on record. -/
  estimations : List (CallRequest × Gas)
  /-- How far it raises the counters. -/
  gain : Metrics

/-- The mark of a call that is answered by the stub. -/
def mark (f : Factory) (stub : Stub) (call : Call) : Mark :=
  let c := (call.operation f).hold Stub.chain stub
  { turn := ⟨call, c.result, c.transcript⟩
    calls := c.queries.map Query.kind
    estimations := c.queries.flatMap stub.noted
    gain := (c.events.map Event.gain).sum }

/-- **The records have no part in a mark.** -/
theorem mark_eq_of_agrees {s t : Stub} (h : s.Agrees t) (f : Factory) : f.mark s = f.mark t := by
  funext call
  obtain ⟨hresult, htranscript⟩ := h.hold_eq (call.operation f)
  simp only [mark, Conversation.queries, Conversation.events, hresult, htranscript, h.noted_eq]

end Factory

namespace Session

/-- The session with one more mark.  Nothing in it is lost. -/
def marked (s : Session) (mark : Factory.Mark) : Session where
  stub :=
    { s.stub with
      calls := s.stub.calls ++ mark.calls
      estimations := s.stub.estimations ++ mark.estimations }
  metrics := s.metrics + mark.gain
  turns := s.turns ++ [mark.turn]

theorem agrees_marked (s : Session) (mark : Factory.Mark) : (s.marked mark).stub.Agrees s.stub :=
  ⟨rfl, fun _ => Iff.rfl⟩

variable {f : Factory}

/-- **A step appends the mark of its call.** -/
theorem step_call (s : Session) (call : Factory.Call) :
    s.step f (.call call) = s.marked (f.mark s.stub call) := by
  have hstub := Operation.state_hold Stub.chain (call.operation f) s.stub
  rw [Stub.after_eq_recordAll] at hstub
  simp only [step, marked, Factory.mark, hstub, Metrics.countAll_eq_add_sum]
  rfl

/-- **A run appends one mark for each call**, in the order of the calls. -/
theorem run_calls (s : Session) (calls : List Factory.Call) :
    s.run f (calls.map .call) = (calls.map (f.mark s.stub)).foldl marked s := by
  induction calls generalizing s with
  | nil => rfl
  | cons call calls ih =>
    calc s.run f ((call :: calls).map .call)
        = (s.step f (.call call)).run f (calls.map .call) := rfl
      _ = (s.marked (f.mark s.stub call)).run f (calls.map .call) := by rw [step_call]
      _ = (calls.map (f.mark (s.marked (f.mark s.stub call)).stub)).foldl marked
            (s.marked (f.mark s.stub call)) := ih _
      _ = ((call :: calls).map (f.mark s.stub)).foldl marked s := by
        rw [Factory.mark_eq_of_agrees (s.agrees_marked _)]
        rfl

theorem metrics_foldl_marked (s : Session) (marks : List Factory.Mark) :
    (marks.foldl marked s).metrics = s.metrics + (marks.map Factory.Mark.gain).sum := by
  induction marks generalizing s with
  | nil => exact (add_zero s.metrics).symm
  | cons mark marks ih =>
    rw [List.foldl_cons, ih, List.map_cons, List.sum_cons, marked, add_assoc]

/-! ## Two orders -/

/-- Every call of the session leaves its mark, whatever was called before it. -/
def LeavesMarks (f : Factory) (s : Session) (mark : Factory.Call → Factory.Mark) : Prop :=
  ∀ call before, s.run f ((before ++ [call]).map .call) =
    (s.run f (before.map .call)).marked (mark call)

theorem leavesMarks_of_agrees {s : Session} {stub : Stub} (h : s.stub.Agrees stub) :
    s.LeavesMarks f (f.mark stub) := by
  intro call before
  rw [run_calls, run_calls, Factory.mark_eq_of_agrees h]
  simp

/-- **Calls can be reordered.**  In two sessions whose chains agree, every call has the same turn,
appends the same to both records and raises the counters by the same, wherever it stands in the
order of either.  So in the end the counters have been raised by the same, in whatever order the
calls were made.  What the sessions had on record or had counted before does not matter. -/
theorem exists_marks (f : Factory) (s s' : Session) (hchains : s.stub.Agrees s'.stub) :
    ∃ mark : Factory.Call → Factory.Mark, (∀ call, (mark call).turn.call = call) ∧
      s.LeavesMarks f mark ∧ s'.LeavesMarks f mark ∧
      ∀ calls calls' : List Factory.Call, calls.Perm calls' →
        ∃ gain, (s.run f (calls.map .call)).metrics = s.metrics + gain ∧
          (s'.run f (calls'.map .call)).metrics = s'.metrics + gain := by
  refine ⟨f.mark s'.stub, fun _ => rfl, leavesMarks_of_agrees hchains,
    leavesMarks_of_agrees ⟨rfl, fun _ => Iff.rfl⟩, fun calls calls' horder => ?_⟩
  have hgain := ((horder.map (f.mark s'.stub)).map Factory.Mark.gain).sum_eq
  refine ⟨((calls.map (f.mark s'.stub)).map Factory.Mark.gain).sum, ?_, ?_⟩
  · rw [run_calls, metrics_foldl_marked, Factory.mark_eq_of_agrees hchains]
  · rw [run_calls, metrics_foldl_marked, hgain]

/-- A fresh session, and one with books of its own that makes the same calls the other way round. -/
theorem exists_marks_of_other_books :
    let f : Factory := ⟨1, {}⟩
    let sender : Address := FixedBytes.ofNat 20 1
    let s : Session := { stub := { failing := [.maxPriorityFee] } }
    let s' : Session :=
      { stub := { failing := [.maxPriorityFee, .maxPriorityFee], calls := [.baseFee] }
        metrics := { signedTransactions := 5 } }
    let calls : List Factory.Call := [.populate sender {}, .defaultArgs sender .blob {}]
    s.stub.Agrees s'.stub ∧ calls.Perm calls.reverse ∧
      (s'.run f (calls.reverse.map .call)).metrics =
        { signedTransactions := 5, unsupportedTypes := 1 } := by
  intro f sender s s' calls
  have hchains : s.stub.Agrees s'.stub := ⟨rfl, by simp [s, s']⟩
  have horder : calls.Perm calls.reverse := (List.reverse_perm calls).symm
  obtain ⟨mark, -, -, -, hmetrics⟩ := exists_marks f s s' hchains
  obtain ⟨gain, hgain, hgain'⟩ := hmetrics calls calls.reverse horder
  have hfresh : (s.run f (calls.map .call)).metrics = { unsupportedTypes := 1 } := rfl
  have hsame : gain = { unsupportedTypes := 1 } := by
    rw [← hfresh, hgain]
    exact (zero_add gain).symm
  exact ⟨hchains, horder, by rw [hgain', hsame]; rfl⟩

end Session
end TxForge
