import TxForge.Proofs.Passages

/-!
# What lies behind an error

When a chain fails to answer, it says why: a message, and the messages of what lies behind it.  The
call that needed the answer ends, in an error with messages of its own, and this file is about what
becomes of those of the chain.

* `Dialogue.failures_run` — the failures in a transcript are those of the chain, one for each query
  that it did not answer.  A plan is given up at the first (`Chain.failures_asked`), so there is at
  most one, and the call ends in it.
* `FactoryError.Relays` — the error has all messages of the failure behind it, in their order and
  with nothing between them.  An estimation that was made to fill in a gas limit is the one case
  with a message in front, which is that of the error in which the estimation ended.
* `Factory.Meets` — the errors of what a factory works with other than the chain: the table of
  types, the checks of a signed transaction, and the context that converts it.
* `Factory.relayed_of_operation` — neither kind of error is lost, whichever call it is met in.
-/

set_option autoImplicit false

namespace TxForge

/-! ## The failures in a transcript -/

/-- The query that was not answered, and why, if the line of a transcript tells of one. -/
def Entry.failure? : Entry → Option (Query × Failure)
  | .asked q (.error failure) => some (q, failure)
  | _ => none

namespace Chain

variable {σ : Type} (chain : Chain σ)

/-- The queries of a list that are not answered if all of them are asked. -/
def failures : List Query → σ → List (Query × Failure)
  | [], _ => []
  | q :: rest, s =>
    match (chain.answer q s).1 with
    | .ok _ => failures rest (chain.answer q s).2
    | .error failure => (q, failure) :: failures rest (chain.answer q s).2

/-- Who stops at the first failure meets no other. -/
theorem failures_asked (qs : List Query) (s : σ) :
    chain.failures (chain.asked qs s) s = (chain.firstFailure? qs s).toList := by
  induction qs generalizing s with
  | nil => rfl
  | cons q rest ih =>
    rw [asked, firstFailure?]
    cases hq : (chain.answer q s).1 with
    | ok a =>
      simp only [failures, hq]
      exact ih _
    | error failure =>
      simp only [failures, hq]
      rfl

end Chain

/-- **The failures in a transcript are those of the queries that were asked.** -/
theorem Dialogue.failures_run {σ α : Type} (chain : Chain σ) (x : Dialogue α) (s : σ) :
    (x.run chain s).transcript.filterMap Entry.failure? =
      chain.failures (x.run chain s).queries s := by
  induction x generalizing s with
  | done a => rfl
  | report e next ih => exact ih s
  | ask q next ih =>
    have hrest := ih (chain.answer q s).1 (chain.answer q s).2
    show (Entry.asked q (chain.answer q s).1 :: _).filterMap Entry.failure? =
      chain.failures (q :: Conversation.queries _) s
    rw [Chain.failures]
    cases hq : (chain.answer q s).1 with
    | ok a =>
      rw [hq] at hrest
      exact hrest
    | error failure =>
      rw [hq] at hrest
      exact congrArg ((q, failure) :: ·) hrest

namespace Operation

variable {α : Type} {op : Operation α} {plan : List Query}
  {outcome : Answers → Except FactoryError α}
  {σ : Type} {chain : Chain σ} {s : σ} {q : Query} {failure : Failure}

/-- An operation that asks a plan ends in the failure that it meets. -/
theorem Asks.result_of_failure (h : op.Asks plan outcome)
    (hmem : .asked q (.error failure) ∈ (op.hold chain s).transcript) :
    (op.hold chain s).result = .error (.unanswered q failure) := by
  have hfailures : (q, failure) ∈ (op.hold chain s).transcript.filterMap Entry.failure? :=
    List.mem_filterMap.2 ⟨_, hmem, rfl⟩
  have hrun := Dialogue.failures_run chain op.run s
  rw [← hold, h.queries, Chain.failures_asked] at hrun
  rw [hrun, Option.mem_toList] at hfailures
  exact h.failed chain s hfailures

theorem asks_throw (e : FactoryError) : (throw e : Operation α).Asks [] fun _ => .error e :=
  .nil fun _ _ => ⟨rfl, rfl⟩

end Operation

/-! ## Calls that ask a plan -/

namespace Factory

/-- The call asks for an estimation and for nothing else. -/
def Call.isEstimation : Call → Bool
  | .estimateGasLimit .. => true
  | _ => false

variable (f : Factory) (signer : Signer) (args : TxArgs)

/-- An operation that either refuses the args or asks a plan asks a plan, if an empty one. -/
theorem exists_asks_of_refused_or {α : Type} {op : Operation α} {type : SupportedType}
    {plan : List Query} {outcome : Answers → Except FactoryError α}
    (hrefused : ∀ field, args.foreignField? type = some field →
      op = throw (.fieldNotAllowed type field))
    (hasks : args.foreignField? type = none → op.Asks plan outcome) :
    ∃ plan outcome, op.Asks plan outcome := by
  cases h : args.foreignField? type with
  | some field => exact ⟨_, _, hrefused field h ▸ Operation.asks_throw _⟩
  | none => exact ⟨_, _, hasks h⟩

/-- **Every call asks a plan**, but for an estimation, which is one query with an error of its own,
and a message, which takes one query more. -/
theorem exists_asks_or (call : Call) :
    (call.isEstimation = false ∧ ∃ plan outcome, (call.operation f).Asks plan outcome) ∨
      (∃ caller args, call = .estimateGasLimit caller args) ∨
      ∃ signer args, call = .chainMessage signer args := by
  cases call with
  | chainId => exact .inl ⟨rfl, _, _, Operation.asks_pure f.chainId⟩
  | estimateGasLimit caller args => exact .inr (.inl ⟨caller, args, rfl⟩)
  | chainMessage signer args => exact .inr (.inr ⟨signer, args, rfl⟩)
  | sign signer tx => exact .inl ⟨rfl, _, _, .nil fun _ _ => ⟨rfl, rfl⟩⟩
  | defaultArgs sender type args =>
    refine .inl ⟨rfl, ?_⟩
    rw [Call.operation]
    cases htype : SupportedType.ofTxType type with
    | error e =>
      refine ⟨[], fun _ => .error (.unsupportedType e), .nil fun chain s => ?_⟩
      rw [hold_defaultArgs_of_unsupported f sender args chain s htype]
      exact ⟨rfl, rfl⟩
    | ok supported =>
      rw [SupportedType.eq_toTxType_of_ofTxType htype]
      exact exists_asks_of_refused_or args (fun field h => by rw [defaultArgs_eq, h])
        asks_defaultArgs
  | populate sender args =>
    exact .inl ⟨rfl, exists_asks_of_refused_or args
      (fun field h => by rw [Call.operation, populate_eq, h]) asks_populate⟩
  | unsignedTx signer args =>
    exact .inl ⟨rfl, exists_asks_of_refused_or args (fun _ => f.unsignedTx_of_refused signer)
      (f.asks_unsignedTx signer)⟩
  | uncheckedTx signer args =>
    exact .inl ⟨rfl, exists_asks_of_refused_or args (fun _ => f.uncheckedTx_of_refused signer)
      (f.asks_uncheckedTx signer)⟩
  | signedTx signer args =>
    exact .inl ⟨rfl, exists_asks_of_refused_or args (fun _ => f.signedTx_of_refused signer)
      (f.asks_signedTx signer)⟩

end Factory

/-! ## Errors that hold a failure -/

/-- The error is that of a call in which a query failed, and it has the messages of the failure
behind it.  If the query was made to fill in a gas limit, there is an error of an estimation between
the two. -/
structure FactoryError.Relays (call : Factory.Call) (q : Query) (failure : Failure)
    (e : FactoryError) : Prop where
  number : q.kind ≠ .estimateGas →
    ((∃ field, e = .defaulting field failure) ∨ e = .baseFee failure) ∧ e.causes = failure.chain
  estimation : call.isEstimation = true → e = .estimation failure ∧ e.causes = failure.chain
  gasLimit : q.kind = .estimateGas → call.isEstimation = false →
    e.causes = "failed to estimate gas" :: failure.chain ∧
      ∃ cause, e = .defaultingGasLimit cause ∧ cause.stage = .estimation ∧
        cause.causes = failure.chain

/-- The error of a plan that is given up. -/
theorem FactoryError.relays_unanswered {call : Factory.Call} (h : call.isEstimation = false)
    (q : Query) (failure : Failure) : (unanswered q failure).Relays call q failure where
  number hkind := by
    cases q with
    | estimateGas request gasCap => exact absurd rfl hkind
    | baseFee | nonce account | maxPriorityFee => exact ⟨.inl ⟨_, rfl⟩, rfl⟩
  estimation hestimation := by
    rw [h] at hestimation
    cases hestimation
  gasLimit hkind _ := by
    cases q with
    | estimateGas request gasCap => exact ⟨rfl, _, rfl, rfl, rfl⟩
    | baseFee | nonce account | maxPriorityFee => cases hkind

/-- What an error says of something that is no failure of a chain: an error of a check with all that
lies behind it, or the words of another error in place of its own.  Behind a check there is
something only where the sender was to be recovered, and that is the error in which recovering
ended. -/
def FactoryError.Unfolds : FactoryError → Prop
  | .validation e => (validation e).causes = e.message :: e.causes ∧
      e.causes = if e = .invalidSignature then ["signature error"] else []
  | .signerContext e => (signerContext e).causes = e.message :: e.causes ∧
      e.causes = if e = .recovery then ["signature error"] else []
  | .unsupportedType e => (unsupportedType e).message = e.message ∧ (unsupportedType e).causes = []
  | _ => True

theorem ValidationError.causes_eq (e : ValidationError) :
    e.causes = if e = .invalidSignature then ["signature error"] else [] := by
  cases e <;> rfl

theorem SignerContextError.causes_eq (e : SignerContextError) :
    e.causes = if e = .recovery then ["signature error"] else [] := by
  cases e <;> rfl

theorem FactoryError.unfolds (e : FactoryError) : e.Unfolds := by
  cases e with
  | unsupportedType e => exact ⟨rfl, rfl⟩
  | validation e => exact ⟨rfl, e.causes_eq⟩
  | signerContext e => exact ⟨rfl, e.causes_eq⟩
  | _ => trivial

namespace Factory

/-- On the way of the call, something other than the chain ends in an error: the table of types, the
checks of a signed transaction, or the context of the chain that a message is for. -/
inductive Meets (f : Factory) {σ : Type} (chain : Chain σ) (s : σ) : Call → FactoryError → Prop
  | unsupportedType {sender : Address} {type : TxType} {args : TxArgs} {e : UnsupportedType}
    (h : SupportedType.ofTxType type = .error e) :
    Meets f chain s (.defaultArgs sender type args) (.unsupportedType e)
  | validation {signer : Signer} {args : TxArgs} {tx : SignedTx} {e : ValidationError}
    (htx : ((f.uncheckedTx signer args).hold chain s).result = .ok tx)
    (h : tx.validate = .error e) : Meets f chain s (.signedTx signer args) (.validation e)
  | validationOfMessage {signer : Signer} {args : TxArgs} {tx : SignedTx} {e : ValidationError}
    (htx : ((f.uncheckedTx signer args).hold chain s).result = .ok tx)
    (h : tx.validate = .error e) : Meets f chain s (.chainMessage signer args) (.validation e)
  | signerContext {signer : Signer} {args : TxArgs} {tx : SignedTx} {baseFee : Price}
    {e : SignerContextError}
    (htx : ((f.signedTx signer args).hold chain s).result = .ok tx)
    (hbaseFee : (chain.answer .baseFee ((f.signedTx signer args).hold chain s).state).1 =
      .ok baseFee)
    (h : tx.toMessage ⟨f.chainId⟩ (some baseFee) = .error e) :
    Meets f chain s (.chainMessage signer args) (.signerContext e)

variable {σ : Type} {f : Factory} {chain : Chain σ} {s : σ} {call : Call} {signer : Signer}
  {args : TxArgs} {q : Query} {failure : Failure}

theorem result_signedTx_of_invalid {tx : SignedTx} {e : ValidationError}
    (htx : ((f.uncheckedTx signer args).hold chain s).result = .ok tx)
    (h : tx.validate = .error e) :
    ((f.signedTx signer args).hold chain s).result = .error (.validation e) := by
  have hcheck (s : σ) : ((Operation.ofExcept .validation tx.validate).hold chain s).result =
      .error (.validation e) := by
    rw [Operation.hold_ofExcept, h]
    rfl
  rw [signedTx, Operation.hold_bind_of_ok chain htx, Conversation.result_followedBy,
    Operation.hold_bind_of_error chain (hcheck _)]

/-- The call ends in the error that is met. -/
theorem Meets.result_eq {e : FactoryError} (h : f.Meets chain s call e) :
    ((call.operation f).hold chain s).result = .error e := by
  cases h with
  | unsupportedType h => rw [Call.operation, hold_defaultArgs_of_unsupported f _ _ chain s h]
  | validation htx h => exact result_signedTx_of_invalid htx h
  | validationOfMessage htx h =>
    exact (hold_chainMessage_of_error (result_signedTx_of_invalid htx h)).1
  | signerContext htx hbaseFee h =>
    refine (hold_chainMessage_of_answer htx hbaseFee).1.trans ?_
    rw [h]
    rfl

/-- A message ends in the failure that its transaction met, or in that of its own query. -/
theorem exists_relays_of_chainMessage
    (h : .asked q (.error failure) ∈ ((f.chainMessage signer args).hold chain s).transcript) :
    ∃ e, ((f.chainMessage signer args).hold chain s).result = .error e ∧
      e.Relays (.chainMessage signer args) q failure := by
  obtain ⟨plan, outcome, hasks⟩ := exists_asks_of_refused_or args
    (fun _ => f.signedTx_of_refused signer) (f.asks_signedTx signer)
  rw [transcript_chainMessage, List.mem_append] at h
  rcases h with h | h
  · have hsigned := hasks.result_of_failure h
    exact ⟨_, (hold_chainMessage_of_error hsigned).1, FactoryError.relays_unanswered rfl q failure⟩
  · cases hsigned : ((f.signedTx signer args).hold chain s).result with
    | error e =>
      rw [hsigned] at h
      cases h
    | ok tx =>
      rw [hsigned, List.mem_singleton] at h
      obtain ⟨rfl, hreply⟩ := Entry.asked.inj h
      refine ⟨_, (hold_chainMessage_of_failure hsigned (eq_of_heq hreply).symm).1, ?_⟩
      exact ⟨fun _ => ⟨.inr rfl, rfl⟩, nofun, nofun⟩

/-- An estimation that was asked for ends in an error of its own. -/
theorem exists_relays_of_estimateGasLimit {caller : Option Address}
    (h : .asked q (.error failure) ∈ ((f.estimateGasLimit caller args).hold chain s).transcript) :
    ∃ e, ((f.estimateGasLimit caller args).hold chain s).result = .error e ∧
      e.Relays (.estimateGasLimit caller args) q failure := by
  cases hr : (chain.answer (f.gasQuery caller args) s).1 with
  | ok gas =>
    rw [hold_estimateGasLimit_of_ok hr] at h
    simp only [List.mem_cons, List.not_mem_nil, or_false, reduceCtorEq, false_or] at h
    obtain ⟨rfl, hreply⟩ := Entry.asked.inj h
    cases hreply
  | error failure' =>
    rw [hold_estimateGasLimit_of_error hr] at h ⊢
    simp only [List.mem_cons, List.not_mem_nil, or_false, reduceCtorEq, false_or] at h
    obtain ⟨rfl, hreply⟩ := Entry.asked.inj h
    cases hreply
    exact ⟨_, rfl, fun hkind => absurd rfl hkind, fun _ => ⟨rfl, rfl⟩, nofun⟩

/-- **No error of what a factory works with is lost or told in other words.**  A query that fails
ends the call, in an error with the messages of the failure behind it; any other error that is met
ends the call as well, and its messages are told with it. -/
theorem relayed_of_operation (f : Factory) (call : Call) {σ : Type} (chain : Chain σ) (s : σ) :
    (∀ q failure, .asked q (.error failure) ∈ ((call.operation f).hold chain s).transcript →
      ∃ e, ((call.operation f).hold chain s).result = .error e ∧ e.Relays call q failure) ∧
      (∀ e, f.Meets chain s call e → ((call.operation f).hold chain s).result = .error e) ∧
      ∀ e, ((call.operation f).hold chain s).result = .error e → e.Unfolds := by
  refine ⟨fun q failure h => ?_, fun e he => he.result_eq, fun e _ => e.unfolds⟩
  rcases f.exists_asks_or call with ⟨hcall, plan, outcome, hasks⟩ | ⟨caller, args, rfl⟩ |
    ⟨signer, args, rfl⟩
  · exact ⟨_, hasks.result_of_failure h, FactoryError.relays_unanswered hcall q failure⟩
  · exact exists_relays_of_estimateGasLimit h
  · exact exists_relays_of_chainMessage h

/-- A chain that has no estimate, for reasons three deep, and a type that has no defaults. -/
theorem relayed_of_failed_estimation :
    let f : Factory := ⟨1, {}⟩
    let chain : Chain Unit :=
      ⟨fun q s => (if q.kind = .estimateGas then .error ⟨"reverted", ["out of gas", "loop"]⟩
        else .ok 0, s)⟩
    let sender := FixedBytes.ofNat 20 1
    (∃ e, ((f.populate sender {}).hold chain ()).result = .error e ∧
        e.causes = ["failed to estimate gas", "reverted", "out of gas", "loop"]) ∧
      ((f.defaultArgs sender .blob {}).hold chain ()).result =
        .error (.unsupportedType (.known .blob)) := by
  intro f chain sender
  refine ⟨?_, (relayed_of_operation f (.defaultArgs sender .blob {}) chain ()).2.1 _
    (.unsupportedType rfl)⟩
  have hlast : Entry.asked (f.gasQuery (some sender) {})
      (.error ⟨"reverted", ["out of gas", "loop"]⟩) ∈
        ((f.populate sender {}).hold chain ()).transcript :=
    List.mem_of_getElem? (i := 7) rfl
  obtain ⟨e, he, hrelays⟩ := (relayed_of_operation f (.populate sender {}) chain ()).1 _ _ hlast
  exact ⟨e, he, (hrelays.gasLimit rfl rfl).1⟩

end Factory
end TxForge
