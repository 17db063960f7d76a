import Mathlib.Logic.Function.Basic
import TxForge.Proofs.Conversation

/-!
# Asking a list of queries

Most of what a factory asks is settled before it asks: a list of queries, each of which waits for
the one before it to be answered.  This file is about such lists, and about operations that ask one.

* `Chain.asked` — the queries of a list that a chain is really asked: all up to the first failure,
  and the one that fails.
* `Chain.firstFailure?` — the query that fails, with its failure.
* `Chain.Gives` — the chain answers the whole list, and these are its answers.  The answers are a
  function of the query, which a chain that changes as it is asked need not be.  It makes no
  difference for a list without repetitions (`Chain.exists_gives_of_firstFailure?_eq_none`).
* `Operation.Asks` — an operation asks exactly the list, names the query that fails, and otherwise
  comes to a result that the answers determine.  It says what an operation does with *every* chain
  from *every* state, and `Operation.Asks.bind` composes it.
-/

set_option autoImplicit false

namespace TxForge

/-- An answer to every query. -/
abbrev Answers : Type :=
  (q : Query) → q.Answer

namespace Chain

variable {σ : Type} (chain : Chain σ)

/-- The queries of a list that are asked if the first failure ends the work. -/
def asked : List Query → σ → List Query
  | [], _ => []
  | q :: rest, s =>
    match (chain.answer q s).1 with
    | .ok _ => q :: asked rest (chain.answer q s).2
    | .error _ => [q]

/-- The first query of a list that fails, if one does. -/
def firstFailure? : List Query → σ → Option (Query × Failure)
  | [], _ => none
  | q :: rest, s =>
    match (chain.answer q s).1 with
    | .ok _ => firstFailure? rest (chain.answer q s).2
    | .error failure => some (q, failure)

/-- Asked the queries of a list in turn, the chain gives these answers. -/
def Gives (answers : Answers) : List Query → σ → Prop
  | [], _ => True
  | q :: rest, s =>
    (chain.answer q s).1 = .ok (answers q) ∧ Gives answers rest (chain.answer q s).2

/-- The chain that answers every query with the same number. -/
def uniform (n : Nat) : Chain Unit where
  answer _ s := (.ok (BitVec.ofNat _ n), s)

variable {chain}

/-! ## Lists that are answered as a whole -/

theorem gives_uniform (n : Nat) (qs : List Query) :
    (uniform n).Gives (fun _ => BitVec.ofNat _ n) qs () := by
  induction qs with
  | nil => trivial
  | cons q rest ih => exact ⟨rfl, ih⟩

theorem Gives.firstFailure?_eq_none {answers : Answers} {qs : List Query} {s : σ}
    (h : chain.Gives answers qs s) : chain.firstFailure? qs s = none := by
  induction qs generalizing s with
  | nil => rfl
  | cons q rest ih =>
    rw [firstFailure?, h.1]
    exact ih h.2

theorem asked_of_firstFailure?_eq_none {qs : List Query} {s : σ}
    (h : chain.firstFailure? qs s = none) : chain.asked qs s = qs := by
  induction qs generalizing s with
  | nil => rfl
  | cons q rest ih =>
    rw [firstFailure?] at h
    rw [asked]
    cases hq : (chain.answer q s).1 with
    | ok a =>
      rw [hq] at h
      exact congrArg (q :: ·) (ih h)
    | error failure => simp [hq] at h

theorem Gives.asked_eq {answers : Answers} {qs : List Query} {s : σ}
    (h : chain.Gives answers qs s) : chain.asked qs s = qs :=
  asked_of_firstFailure?_eq_none h.firstFailure?_eq_none

/-- Only the answers to the queries of the list matter. -/
theorem Gives.congr {answers answers' : Answers} {qs : List Query} {s : σ}
    (h : chain.Gives answers qs s) (hq : ∀ q ∈ qs, answers q = answers' q) :
    chain.Gives answers' qs s := by
  induction qs generalizing s with
  | nil => trivial
  | cons q rest ih =>
    exact ⟨by rw [h.1, hq q List.mem_cons_self],
      ih h.2 fun r hr => hq r (List.mem_cons_of_mem _ hr)⟩

/-- **A list that no query of fails has answers.**  A query that is repeated may get two different
ones, hence the condition. -/
theorem exists_gives_of_firstFailure?_eq_none {qs : List Query} (hqs : qs.Nodup) {s : σ}
    (h : chain.firstFailure? qs s = none) : ∃ answers, chain.Gives answers qs s := by
  induction qs generalizing s with
  | nil => exact ⟨fun _ => 0, trivial⟩
  | cons q rest ih =>
    obtain ⟨hq, hrest⟩ := List.nodup_cons.1 hqs
    rw [firstFailure?] at h
    cases ha : (chain.answer q s).1 with
    | error failure => simp [ha] at h
    | ok a =>
      rw [ha] at h
      obtain ⟨answers, hg⟩ := ih hrest h
      refine ⟨Function.update answers q a, ?_, hg.congr fun r hr => ?_⟩
      · rw [ha, Function.update_self]
      · rw [Function.update_of_ne (ne_of_mem_of_not_mem hr hq)]

/-! ## Lists one after the other -/

theorem gives_append {answers : Answers} {before rest : List Query} {s : σ} :
    chain.Gives answers (before ++ rest) s ↔
      chain.Gives answers before s ∧ chain.Gives answers rest (chain.after before s) := by
  induction before generalizing s with
  | nil => simp [Gives, after]
  | cons q before ih => simp [Gives, after, ih, and_assoc]

theorem asked_append_of_none {before : List Query} {s : σ}
    (h : chain.firstFailure? before s = none) (rest : List Query) :
    chain.asked (before ++ rest) s = before ++ chain.asked rest (chain.after before s) := by
  induction before generalizing s with
  | nil => rfl
  | cons q before ih =>
    rw [firstFailure?] at h
    rw [List.cons_append, asked]
    cases hq : (chain.answer q s).1 with
    | ok a =>
      rw [hq] at h
      exact congrArg (q :: ·) (ih h)
    | error failure => simp [hq] at h

theorem asked_append_of_some {before : List Query} {s : σ} {stop : Query × Failure}
    (h : chain.firstFailure? before s = some stop) (rest : List Query) :
    chain.asked (before ++ rest) s = chain.asked before s := by
  induction before generalizing s with
  | nil => simp [firstFailure?] at h
  | cons q before ih =>
    rw [firstFailure?] at h
    rw [List.cons_append, asked, asked]
    cases hq : (chain.answer q s).1 with
    | ok a =>
      rw [hq] at h
      exact congrArg (q :: ·) (ih h)
    | error failure => rfl

theorem firstFailure?_append (before rest : List Query) (s : σ) :
    chain.firstFailure? (before ++ rest) s =
      (chain.firstFailure? before s).or (chain.firstFailure? rest (chain.after before s)) := by
  induction before generalizing s with
  | nil => rfl
  | cons q before ih =>
    rw [List.cons_append, firstFailure?, firstFailure?]
    cases (chain.answer q s).1 with
    | ok a => exact ih _
    | error failure => rfl

end Chain

/-- The replies in a transcript are the answers that the chain gave. -/
theorem Dialogue.reply_of_gives {σ α : Type} {chain : Chain σ} {x : Dialogue α} {s : σ}
    {answers : Answers} (hg : chain.Gives answers (x.run chain s).queries s) {q : Query}
    {reply : q.Reply} (h : .asked q reply ∈ (x.run chain s).transcript) :
    reply = .ok (answers q) := by
  induction x generalizing s with
  | done a => cases h
  | ask r next ih =>
    obtain ⟨hanswer, hrest⟩ := hg
    rcases List.mem_cons.1 h with heq | hmem
    · cases heq
      exact hanswer
    · exact ih _ hrest hmem
  | report e next ih =>
    rcases List.mem_cons.1 h with heq | hmem
    · cases heq
    · exact ih hg hmem

/-! ## Operations that ask a list of queries -/

/-- The error that names the field for which a query failed.  A gas limit is defaulted by an
estimation, which ends in an error of its own. -/
def FactoryError.unanswered : Query → Failure → FactoryError
  | .nonce _, failure => .defaulting .nonce failure
  | .maxPriorityFee, failure => .defaulting .maxPriorityFeePerGas failure
  | .baseFee, failure => .defaulting .maxFeePerGas failure
  | .estimateGas .., failure => .defaultingGasLimit (.estimation failure)

theorem FactoryError.stage_unanswered (q : Query) (failure : Failure) :
    (unanswered q failure).stage = .defaulting := by
  cases q <;> rfl

namespace Operation

variable {α β : Type}

/-- The operation asks the queries of the plan in turn.  The first failure ends it with the error
that names the query; without one it comes to the outcome that the answers determine. -/
structure Asks (op : Operation α) (plan : List Query)
    (outcome : Answers → Except FactoryError α) : Prop where
  queries : ∀ {σ : Type} (chain : Chain σ) (s : σ),
    (op.hold chain s).queries = chain.asked plan s
  failed : ∀ {σ : Type} (chain : Chain σ) (s : σ) {q : Query} {failure : Failure},
    chain.firstFailure? plan s = some (q, failure) →
      (op.hold chain s).result = .error (.unanswered q failure)
  answered : ∀ {σ : Type} (chain : Chain σ) (s : σ) {answers : Answers},
    chain.Gives answers plan s → (op.hold chain s).result = outcome answers

/-- An operation without queries. -/
theorem Asks.nil {op : Operation α} {r : Except FactoryError α}
    (h : ∀ {σ : Type} (chain : Chain σ) (s : σ),
      (op.hold chain s).queries = [] ∧ (op.hold chain s).result = r) :
    op.Asks [] fun _ => r where
  queries chain s := (h chain s).1
  failed _ _ _ _ hf := by simp [Chain.firstFailure?] at hf
  answered chain s _ _ := (h chain s).2

theorem asks_pure (a : α) : (pure a : Operation α).Asks [] fun _ => .ok a :=
  .nil fun _ _ => ⟨rfl, rfl⟩

/-- One operation after the other.  The plan of the second must not depend on the answers to the
first, though its outcome may. -/
theorem Asks.bind {x : Operation α} {k : α → Operation β} {plan plan' : List Query}
    {g : Answers → α} (hx : x.Asks plan fun answers => .ok (g answers)) (hplan : plan.Nodup)
    (outcome : Answers → Answers → Except FactoryError β)
    (hk : ∀ answers, (k (g answers)).Asks plan' (outcome answers)) :
    (x >>= k).Asks (plan ++ plan') fun answers => outcome answers answers := by
  have hold_eq : ∀ {σ : Type} (chain : Chain σ) (s : σ) {answers : Answers},
      chain.Gives answers plan s → (x >>= k).hold chain s =
        (x.hold chain s).followedBy ((k (g answers)).hold chain (chain.after plan s)) := by
    intro σ chain s answers hg
    rw [hold_bind_of_ok chain (hx.answered chain s hg) k, state_hold, hx.queries, hg.asked_eq]
  refine ⟨fun chain s => ?_, fun chain s q failure hf => ?_, fun chain s answers hg => ?_⟩
  · cases hp : chain.firstFailure? plan s with
    | some stop =>
      rw [hold_bind_of_error chain (hx.failed chain s hp) k, Chain.asked_append_of_some hp]
      exact hx.queries chain s
    | none =>
      obtain ⟨answers, hg⟩ := Chain.exists_gives_of_firstFailure?_eq_none hplan hp
      rw [hold_eq chain s hg, Conversation.queries_followedBy, hx.queries, hg.asked_eq,
        (hk answers).queries, Chain.asked_append_of_none hp]
  · rw [Chain.firstFailure?_append] at hf
    cases hp : chain.firstFailure? plan s with
    | some stop =>
      rw [hp, Option.some_or, Option.some.injEq] at hf
      subst hf
      rw [hold_bind_of_error chain (hx.failed chain s hp) k]
    | none =>
      rw [hp, Option.none_or] at hf
      obtain ⟨answers, hg⟩ := Chain.exists_gives_of_firstFailure?_eq_none hplan hp
      rw [hold_eq chain s hg, Conversation.result_followedBy]
      exact (hk answers).failed chain _ hf
  · obtain ⟨hg₁, hg₂⟩ := Chain.gives_append.1 hg
    rw [hold_eq chain s hg₁, Conversation.result_followedBy]
    exact (hk answers).answered chain _ hg₂

/-- An operation that succeeds was given all its answers. -/
theorem Asks.exists_gives {op : Operation α} {plan : List Query}
    {outcome : Answers → Except FactoryError α} (h : op.Asks plan outcome) (hplan : plan.Nodup)
    {σ : Type} {chain : Chain σ} {s : σ} {a : α} (hok : (op.hold chain s).result = .ok a) :
    ∃ answers, chain.Gives answers plan s ∧ outcome answers = .ok a := by
  cases hf : chain.firstFailure? plan s with
  | some stop =>
    rw [h.failed chain s hf] at hok
    cases hok
  | none =>
    obtain ⟨answers, hg⟩ := Chain.exists_gives_of_firstFailure?_eq_none hplan hf
    exact ⟨answers, hg, (h.answered chain s hg).symm.trans hok⟩

/-- An operation that makes something of all answers fails for want of an answer only. -/
theorem Asks.stage_of_error {op : Operation α} {plan : List Query} {g : Answers → α}
    (h : op.Asks plan fun answers => .ok (g answers)) (hplan : plan.Nodup) {σ : Type}
    {chain : Chain σ} {s : σ} {e : FactoryError} (he : (op.hold chain s).result = .error e) :
    e.stage = .defaulting := by
  cases hf : chain.firstFailure? plan s with
  | some stop =>
    rw [h.failed chain s hf] at he
    cases he
    exact FactoryError.stage_unanswered _ _
  | none =>
    obtain ⟨answers, hg⟩ := Chain.exists_gives_of_firstFailure?_eq_none hplan hf
    rw [h.answered chain s hg] at he
    cases he

/-- Work after the last query: it may fail, but it asks nothing more. -/
theorem Asks.andThen {x : Operation α} {k : α → Operation β} {plan : List Query}
    {outcome : Answers → Except FactoryError α} (hx : x.Asks plan outcome)
    (rest : α → Except FactoryError β) (hk : ∀ a, (k a).Asks [] fun _ => rest a) :
    (x >>= k).Asks plan fun answers => outcome answers >>= rest := by
  have hold_queries : ∀ {σ : Type} (chain : Chain σ) (s : σ),
      ((x >>= k).hold chain s).queries = (x.hold chain s).queries := by
    intro σ chain s
    cases hr : (x.hold chain s).result with
    | error e => rw [hold_bind_of_error chain hr k]; rfl
    | ok a =>
      rw [hold_bind_of_ok chain hr k, Conversation.queries_followedBy, (hk a).queries]
      exact List.append_nil _
  refine ⟨fun chain s => ?_, fun chain s q failure hf => ?_, fun chain s answers hg => ?_⟩
  · rw [hold_queries, hx.queries]
  · rw [hold_bind_of_error chain (hx.failed chain s hf) k]
  · have hr := hx.answered chain s hg
    cases ho : outcome answers with
    | error e => rw [hold_bind_of_error chain (hr.trans ho) k]; rfl
    | ok a =>
      rw [hold_bind_of_ok chain (hr.trans ho) k, Conversation.result_followedBy]
      exact (hk a).answered chain _ (show chain.Gives answers [] _ from trivial)

/-- An operation with one query. -/
theorem Asks.single (q : Query) (g : q.Answer → α) {op : Operation α}
    (h : ∀ {σ : Type} (chain : Chain σ) (s : σ), (op.hold chain s).queries = [q] ∧
      (op.hold chain s).result =
        ((chain.answer q s).1.mapError (FactoryError.unanswered q)).map g) :
    op.Asks [q] fun answers => .ok (g (answers q)) := by
  refine ⟨fun chain s => ?_, fun chain s r failure hf => ?_, fun chain s answers hg => ?_⟩
  · rw [(h chain s).1, Chain.asked]
    cases (chain.answer q s).1 <;> rfl
  · rw [(h chain s).2]
    rw [Chain.firstFailure?] at hf
    cases hr : (chain.answer q s).1 with
    | ok a => simp [hr, Chain.firstFailure?] at hf
    | error failure' =>
      simp only [hr, Option.some.injEq, Prod.mk.injEq] at hf
      obtain ⟨rfl, rfl⟩ := hf
      rfl
  · rw [(h chain s).2, hg.1]
    rfl

/-- A query, a report of what came of it, and a result. -/
theorem asks_query (q : Query) {onFailure : Failure → FactoryError}
    (hq : ∀ failure, onFailure failure = .unanswered q failure) (event : q.Answer → Event)
    (g : q.Answer → α) :
    (do
      let a ← ask q onFailure
      report (event a)
      return g a : Operation α).Asks [q] fun answers => .ok (g (answers q)) := by
  refine .single q g fun chain s => ?_
  have hrun : (do
      let a ← ask q onFailure
      report (event a)
      return g a : Operation α).run = .ask q fun
        | .ok a => .report (event a) (.done (.ok (g a)))
        | .error failure => .done (.error (.unanswered q failure)) := by
    refine congrArg (Dialogue.ask q) (funext fun reply => ?_)
    cases reply with
    | ok a => rfl
    | error failure => exact congrArg (fun e => Dialogue.done (Except.error e)) (hq failure)
  rw [hold, hrun]
  simp only [Dialogue.run]
  cases (chain.answer q s).1 <;> exact ⟨rfl, rfl⟩

end Operation
end TxForge
