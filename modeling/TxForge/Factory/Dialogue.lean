import TxForge.Factory.Error
import TxForge.Factory.Event

/-!
# Dialogues

What a factory does is a tree: it asks the chain, goes on with the reply whatever it is, reports
what happens on the way, and ends with a result.  The tree says nothing about which chain replies;
`Dialogue.run` plays it against one and keeps the transcript.  So laws about queries, reports and
results hold for every chain, and laws about a chain for every dialogue.

* `Operation` is a dialogue that may end in an error of the factory.
* The transcript holds queries with their replies and events, in the order in which they occur.
-/

set_option autoImplicit false

namespace TxForge

/-- A conversation with a chain that ends in a result. -/
inductive Dialogue (α : Type) : Type where
  | done (a : α)
  | ask (q : Query) (next : q.Reply → Dialogue α)
  | report (e : Event) (next : Dialogue α)

/-- One line of a transcript. -/
inductive Entry where
  | asked (q : Query) (reply : q.Reply)
  | reported (e : Event)

namespace Entry

/-- The query of a line that is one. -/
def query? : Entry → Option Query
  | .asked q _ => some q
  | .reported _ => none

/-- The event of a line that is one. -/
def event? : Entry → Option Event
  | .asked .. => none
  | .reported e => some e

end Entry

/-- What a dialogue with a chain came to. -/
structure Conversation (σ α : Type) where
  result : α
  transcript : List Entry
  /-- The chain afterwards. -/
  state : σ

namespace Conversation

/-- The queries, in order. -/
def queries {σ α : Type} (c : Conversation σ α) : List Query :=
  c.transcript.filterMap Entry.query?

/-- The events, in order. -/
def events {σ α : Type} (c : Conversation σ α) : List Event :=
  c.transcript.filterMap Entry.event?

end Conversation

namespace Dialogue

variable {α β : Type}

/-- The dialogue that goes on where the first one ends. -/
def bind : Dialogue α → (α → Dialogue β) → Dialogue β
  | .done a, f => f a
  | .ask q next, f => .ask q fun reply => (next reply).bind f
  | .report e next, f => .report e (next.bind f)

instance : Monad Dialogue where
  pure := .done
  bind := bind

/-- Holds the dialogue with a chain. -/
def run {σ : Type} (chain : Chain σ) : Dialogue α → σ → Conversation σ α
  | .done a, s => ⟨a, [], s⟩
  | .ask q next, s =>
    let (reply, s') := chain.answer q s
    let rest := (next reply).run chain s'
    { rest with transcript := .asked q reply :: rest.transcript }
  | .report e next, s =>
    let rest := next.run chain s
    { rest with transcript := .reported e :: rest.transcript }

/-! ## Laws -/

@[simp] theorem pure_eq (a : α) : (pure a : Dialogue α) = .done a := rfl

@[simp] theorem done_bind (a : α) (f : α → Dialogue β) : (Dialogue.done a >>= f) = f a := rfl

@[simp] theorem ask_bind (q : Query) (next : q.Reply → Dialogue α) (f : α → Dialogue β) :
    (Dialogue.ask q next >>= f) = .ask q fun reply => next reply >>= f := rfl

@[simp] theorem report_bind (e : Event) (next : Dialogue α) (f : α → Dialogue β) :
    (Dialogue.report e next >>= f) = .report e (next >>= f) := rfl

theorem map_id (x : Dialogue α) : id <$> x = x := by
  induction x with
  | done a => rfl
  | ask q next ih => exact congrArg (Dialogue.ask q) (funext ih)
  | report e next ih => exact congrArg (Dialogue.report e) ih

theorem bind_then {γ : Type} (x : Dialogue α) (f : α → Dialogue β) (g : β → Dialogue γ) :
    (x >>= f) >>= g = x >>= fun a => f a >>= g := by
  induction x with
  | done a => rfl
  | ask q next ih => exact congrArg (Dialogue.ask q) (funext ih)
  | report e next ih => exact congrArg (Dialogue.report e) ih

instance : LawfulMonad Dialogue :=
  LawfulMonad.mk' Dialogue map_id (fun _ _ => rfl) bind_then

end Dialogue

/-- Part of a factory's work: a dialogue that may end in an error. -/
abbrev Operation (α : Type) : Type :=
  ExceptT FactoryError Dialogue α

namespace Operation

/-- Asks a query and hands the reply on. -/
def attempt (q : Query) : Operation q.Reply :=
  ExceptT.mk (.ask q fun reply => .done (.ok reply))

/-- Asks a query whose failure is an error. -/
def ask (q : Query) (onFailure : Failure → FactoryError) : Operation q.Answer :=
  ExceptT.mk (.ask q fun reply => .done (reply.mapError onFailure))

/-- Reports an event. -/
def report (e : Event) : Operation Unit :=
  ExceptT.mk (.report e (.done (.ok ())))

/-- Goes on with a result that may be an error. -/
def ofExcept {ε α : Type} (onError : ε → FactoryError) (r : Except ε α) : Operation α :=
  ExceptT.mk (.done (r.mapError onError))

/-- Holds the operation as a dialogue with a chain. -/
def hold {σ α : Type} (op : Operation α) (chain : Chain σ) (s : σ) :
    Conversation σ (Except FactoryError α) :=
  Dialogue.run chain op.run s

end Operation
end TxForge
