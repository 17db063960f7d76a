import TxForge.Chain.Stub
import TxForge.Proofs.Conversation

/-!
# Chains in memory that agree

A chain in memory writes down what it is asked, and it does not read what it wrote.  So a call that
is made late in a session cannot notice the calls before it.

* `Stub.after_eq_recordAll` — queries leave nothing in the chain but their records.
* `Stub.Agrees` — all of the chain that a call can notice: its values, and what fails.  Chains that
  agree hold the same conversations (`Stub.Agrees.hold_eq`), and a conversation leaves a chain that
  agrees with the one it found (`Stub.agrees_hold`).
-/

set_option autoImplicit false

namespace TxForge
namespace Stub

/-! ## What queries write on record -/

theorem noted_recordAll (s : Stub) (queries : List Query) :
    (s.recordAll queries).noted = s.noted := by
  funext q
  cases q <;> rfl

theorem recordAll_cons (s : Stub) (q : Query) (queries : List Query) :
    (s.recordAll [q]).recordAll queries = s.recordAll (q :: queries) := by
  rw [recordAll, noted_recordAll]
  simp [recordAll]

/-- **Queries leave nothing but their records.** -/
theorem after_eq_recordAll (s : Stub) (queries : List Query) :
    Stub.chain.after queries s = s.recordAll queries := by
  induction queries generalizing s with
  | nil => simp [Chain.after, recordAll]
  | cons q queries ih => rw [Chain.after, ih, state_answer, recordAll_cons]

/-! ## What a call can notice -/

/-- The two have the same values, and the same kinds of queries fail.  Their records are their
own. -/
structure Agrees (s t : Stub) : Prop where
  values : s.values = t.values
  failing : ∀ kind, kind ∈ s.failing ↔ kind ∈ t.failing

namespace Agrees

variable {s t u : Stub}

theorem trans (h : s.Agrees t) (h' : t.Agrees u) : s.Agrees u :=
  ⟨h.values.trans h'.values, fun kind => (h.failing kind).trans (h'.failing kind)⟩

theorem recordAll (h : s.Agrees t) (queries queries' : List Query) :
    (s.recordAll queries).Agrees (t.recordAll queries') :=
  ⟨h.values, h.failing⟩

theorem noted_eq (h : s.Agrees t) : s.noted = t.noted := by
  funext q
  cases q with
  | estimateGas request gasCap => simp only [noted, h.failing]
  | baseFee | nonce account | maxPriorityFee => rfl

/-- The reply does not show what was asked before. -/
theorem reply_eq (h : s.Agrees t) (q : Query) :
    (Stub.chain.answer q s).1 = (Stub.chain.answer q t).1 := by
  by_cases hfailing : q.kind ∈ s.failing
  · rw [answer_of_failing hfailing, answer_of_failing ((h.failing _).1 hfailing)]
  · rw [answer_of_not_failing hfailing,
      answer_of_not_failing fun hkind => hfailing ((h.failing _).2 hkind)]
    cases q with
    | estimateGas request gasCap =>
      simp only [respond, estimate, record, h.values]
      split <;> rfl
    | baseFee | nonce account | maxPriorityFee => simp [respond, record, h.values]

/-- **Neither does anything else.** -/
theorem hold_eq {α : Type} (h : s.Agrees t) (op : Operation α) :
    (op.hold Stub.chain s).result = (op.hold Stub.chain t).result ∧
      (op.hold Stub.chain s).transcript = (op.hold Stub.chain t).transcript := by
  refine Dialogue.run_congr (R := Agrees) (P := fun _ => True) (fun q s t _ hst => ?_) op.run h
    fun _ _ => trivial
  rw [state_answer, state_answer]
  exact ⟨hst.reply_eq q, hst.recordAll [q] [q]⟩

end Agrees

/-- A conversation leaves its records, and what can be noticed as it was. -/
theorem agrees_hold {α : Type} (op : Operation α) (s : Stub) :
    (op.hold Stub.chain s).state.Agrees s := by
  rw [Operation.state_hold, after_eq_recordAll]
  exact ⟨rfl, fun _ => Iff.rfl⟩

end Stub
end TxForge
