import TxForge.Factory.Dialogue

/-!
# How conversations compose

An operation that goes on where another one ends holds two conversations, one after the other: the
second starts with the chain as the first left it, and only if the first did not end in an error.
`Operation.hold_bind_of_ok` and `Operation.hold_bind_of_error` say so, and everything that is proved
about a factory is put together with these two.

A conversation changes the chain by its queries and by nothing else (`Dialogue.state_run`), so
the state in which it leaves the chain need not be followed separately.  What two chains have in
common is a matter of single queries as well (`Dialogue.run_congr`).
-/

set_option autoImplicit false

namespace TxForge

/-- The chain after it was asked queries one after the other. -/
def Chain.after {σ : Type} (chain : Chain σ) : List Query → σ → σ
  | [], s => s
  | q :: rest, s => chain.after rest (chain.answer q s).2

namespace Conversation

variable {σ α β : Type}

/-- Two conversations, one after the other, with the result of the second. -/
def followedBy (c : Conversation σ α) (d : Conversation σ β) : Conversation σ β :=
  { d with transcript := c.transcript ++ d.transcript }

@[simp] theorem result_followedBy (c : Conversation σ α) (d : Conversation σ β) :
    (c.followedBy d).result = d.result := rfl

@[simp] theorem state_followedBy (c : Conversation σ α) (d : Conversation σ β) :
    (c.followedBy d).state = d.state := rfl

@[simp] theorem queries_followedBy (c : Conversation σ α) (d : Conversation σ β) :
    (c.followedBy d).queries = c.queries ++ d.queries :=
  List.filterMap_append

end Conversation

/-! ## Dialogues -/

namespace Dialogue

variable {σ α β : Type} (chain : Chain σ)

theorem run_bind (x : Dialogue α) (f : α → Dialogue β) (s : σ) :
    (x >>= f).run chain s =
      (x.run chain s).followedBy ((f (x.run chain s).result).run chain (x.run chain s).state) := by
  induction x generalizing s with
  | done a => rfl
  | ask q next ih =>
    simp only [ask_bind, run, ih]
    rfl
  | report e next ih =>
    simp only [report_bind, run, ih]
    rfl

/-- **The queries alone change the chain.** -/
theorem state_run (x : Dialogue α) (s : σ) :
    (x.run chain s).state = chain.after (x.run chain s).queries s := by
  induction x generalizing s with
  | done a => rfl
  | ask q next ih => exact ih _ _
  | report e next ih => exact ih _

/-- **Chains that reply alike hold the same conversation.**  `R` relates their states, and `P` is
what is known of the queries that are asked. -/
theorem run_congr {τ : Type} {chain : Chain σ} {chain' : Chain τ} {R : σ → τ → Prop}
    {P : Query → Prop}
    (hchains : ∀ q s t, P q → R s t → (chain.answer q s).1 = (chain'.answer q t).1 ∧
      R (chain.answer q s).2 (chain'.answer q t).2)
    (x : Dialogue α) {s : σ} {t : τ} (hstates : R s t)
    (hasked : ∀ q ∈ (x.run chain s).queries, P q) :
    (x.run chain s).result = (x.run chain' t).result ∧
      (x.run chain s).transcript = (x.run chain' t).transcript := by
  induction x generalizing s t with
  | done a => exact ⟨rfl, rfl⟩
  | ask q next ih =>
    obtain ⟨hreply, hnext⟩ := hchains q s t (hasked q List.mem_cons_self) hstates
    have hrest := ih (chain.answer q s).1 hnext fun r hr => hasked r (List.mem_cons_of_mem _ hr)
    simp only [run]
    rw [← hreply]
    exact ⟨hrest.1, congrArg _ hrest.2⟩
  | report e next ih =>
    have hrest := ih hstates hasked
    exact ⟨hrest.1, congrArg _ hrest.2⟩

end Dialogue

/-! ## Operations -/

namespace Operation

variable {σ α β : Type} (chain : Chain σ)

theorem state_hold (op : Operation α) (s : σ) :
    (op.hold chain s).state = chain.after (op.hold chain s).queries s :=
  Dialogue.state_run chain op.run s

@[simp] theorem hold_pure (a : α) (s : σ) :
    (pure a : Operation α).hold chain s = ⟨.ok a, [], s⟩ := rfl

@[simp] theorem hold_throw (e : FactoryError) (s : σ) :
    (throw e : Operation α).hold chain s = ⟨.error e, [], s⟩ := rfl

@[simp] theorem hold_ofExcept {ε : Type} (onError : ε → FactoryError) (r : Except ε α) (s : σ) :
    (ofExcept onError r).hold chain s = ⟨r.mapError onError, [], s⟩ := rfl

@[simp] theorem hold_ask (q : Query) (onFailure : Failure → FactoryError) (s : σ) :
    (ask q onFailure).hold chain s =
      ⟨(chain.answer q s).1.mapError onFailure, [.asked q (chain.answer q s).1],
        (chain.answer q s).2⟩ := rfl

theorem hold_bind_of_ok {x : Operation α} {s : σ} {a : α} (h : (x.hold chain s).result = .ok a)
    (k : α → Operation β) :
    (x >>= k).hold chain s =
      (x.hold chain s).followedBy ((k a).hold chain (x.hold chain s).state) := by
  rw [hold, ExceptT.run_bind, Dialogue.run_bind]
  rw [hold] at h
  rw [h]
  rfl

theorem hold_bind_of_error {x : Operation α} {s : σ} {e : FactoryError}
    (h : (x.hold chain s).result = .error e) (k : α → Operation β) :
    (x >>= k).hold chain s =
      ⟨.error e, (x.hold chain s).transcript, (x.hold chain s).state⟩ := by
  rw [hold, ExceptT.run_bind, Dialogue.run_bind]
  rw [hold] at h
  rw [h]
  simp [Conversation.followedBy, Dialogue.run, hold]

/-- If both together come to a value, each of them did. -/
theorem exists_of_hold_bind_eq_ok {chain : Chain σ} {x : Operation α} {k : α → Operation β} {s : σ}
    {b : β} (h : ((x >>= k).hold chain s).result = .ok b) :
    ∃ a, (x.hold chain s).result = .ok a ∧
      ((k a).hold chain (x.hold chain s).state).result = .ok b := by
  cases hx : (x.hold chain s).result with
  | ok a =>
    rw [hold_bind_of_ok chain hx, Conversation.result_followedBy] at h
    exact ⟨a, rfl, h⟩
  | error e =>
    rw [hold_bind_of_error chain hx] at h
    cases h

end Operation
end TxForge
