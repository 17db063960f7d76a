import TxForge.Proofs.Production

/-!
# What a factory asks, and when it stops

The queries of every operation of a factory, for every chain and whatever it replies.

* Args with a field that has no place in their type are refused before anything is asked.
* All others are filled in along `Factory.plan`: a query for each field that is missing, in the
  order nonce, tip, fee cap, gas limit, and none after the first that fails.  The error names the
  field of that query (`Conversation.Follows`).
* A chain message takes one more query for the base fee, once the transaction is signed and checked.
  Its failure is an error of its own, so the two queries for a base fee cannot be mistaken for each
  other.
-/

set_option autoImplicit false

namespace TxForge

/-- The conversation asks the plan up to the first failure.  It ends in an error of defaulting
exactly if a query fails, and then in the one that names this query.  No error of it is one of
converting a transaction. -/
structure Conversation.Follows {σ α : Type} (c : Conversation σ (Except FactoryError α))
    (chain : Chain σ) (s : σ) (plan : List Query) : Prop where
  queries : c.queries = chain.asked plan s
  defaulting : ∀ e, c.result = .error e ∧ e.stage = .defaulting ↔
    ∃ q failure, chain.firstFailure? plan s = some (q, failure) ∧ e = .unanswered q failure
  conversion : ∀ e, c.result = .error e → e.stage ≠ .conversion

/-- The conversation ends before it begins if the args have a field that the type does not, and
follows the plan otherwise. -/
def Conversation.FollowsUnlessRefused {σ α : Type} (c : Conversation σ (Except FactoryError α))
    (chain : Chain σ) (s : σ) (type : SupportedType) (args : TxArgs) (plan : List Query) : Prop :=
  match args.foreignField? type with
  | some field => c = ⟨.error (.fieldNotAllowed type field), [], s⟩
  | none => c.Follows chain s plan

/-- No way through such a conversation ends in an error of converting a transaction. -/
theorem Conversation.FollowsUnlessRefused.stage_ne {σ α : Type}
    {c : Conversation σ (Except FactoryError α)} {chain : Chain σ} {s : σ} {type : SupportedType}
    {args : TxArgs} {plan : List Query} (h : c.FollowsUnlessRefused chain s type args plan)
    {e : FactoryError} (he : c.result = .error e) : e.stage ≠ .conversion := by
  rw [FollowsUnlessRefused] at h
  cases hf : args.foreignField? type with
  | some field =>
    rw [hf] at h
    rw [h] at he
    cases he
    simp [FactoryError.stage]
  | none =>
    rw [hf] at h
    exact h.conversion e he

/-- The conversation for a message is the one for the transaction, with a query for the base fee
behind it if there is a transaction.  Only that query fails with an error for a base fee. -/
structure Conversation.AddsBaseFee {σ : Type}
    (message : Conversation σ (Except FactoryError ChainMessage)) (chain : Chain σ)
    (signed : Conversation σ (Except FactoryError SignedTx)) : Prop where
  queries : message.queries = signed.queries ++ if signed.result.isOk then [.baseFee] else []
  earlier : ∀ e, e.stage ≠ .conversion →
    (message.result = .error e ↔ signed.result = .error e)
  baseFee : ∀ failure, message.result = .error (.baseFee failure) ↔
    (∃ tx, signed.result = .ok tx) ∧ (chain.answer .baseFee signed.state).1 = .error failure

/-- The outcome is no error of defaulting or conversion. -/
def NeverQueryError {α : Type} (r : Except FactoryError α) : Prop :=
  ∀ e, r = .error e → e.stage ≠ .defaulting ∧ e.stage ≠ .conversion

theorem NeverQueryError.bind {α β : Type} {r : Except FactoryError α}
    {k : α → Except FactoryError β} (hr : NeverQueryError r) (hk : ∀ a, NeverQueryError (k a)) :
    NeverQueryError (r >>= k) := by
  intro e he
  cases r with
  | error e' => exact hr e (by cases he; rfl)
  | ok a => exact hk a e he

theorem exists_of_mapError_eq_error {ε ε' α : Type} {onError : ε → ε'} {r : Except ε α} {e : ε'}
    (h : r.mapError onError = .error e) : ∃ e', r = .error e' ∧ e = onError e' := by
  cases r with
  | ok a => cases h
  | error e' =>
    cases h
    exact ⟨e', rfl, rfl⟩

theorem eq_ok_of_mapError_eq_ok {ε ε' α : Type} {onError : ε → ε'} {r : Except ε α} {a : α}
    (h : r.mapError onError = .ok a) : r = .ok a := by
  cases r with
  | ok a' =>
    cases h
    rfl
  | error e => cases h

theorem neverQueryError_mapError {ε α : Type} {onError : ε → FactoryError} (r : Except ε α)
    (h : ∀ e, (onError e).stage ≠ .defaulting ∧ (onError e).stage ≠ .conversion) :
    NeverQueryError (r.mapError onError) := by
  intro e he
  obtain ⟨e', -, rfl⟩ := exists_of_mapError_eq_error he
  exact h e'

theorem neverQueryError_checked (tx : SignedTx) : NeverQueryError tx.checked := by
  intro e he
  rw [SignedTx.checked] at he
  cases hv : tx.validate with
  | ok u => rw [hv] at he; cases he
  | error e' =>
    rw [hv] at he
    cases he
    simp [FactoryError.stage]

theorem Operation.Asks.follows {α : Type} {op : Operation α} {plan : List Query}
    {outcome : Answers → Except FactoryError α} (h : op.Asks plan outcome) (hplan : plan.Nodup)
    (hout : ∀ answers, NeverQueryError (outcome answers)) {σ : Type} (chain : Chain σ) (s : σ) :
    (op.hold chain s).Follows chain s plan := by
  cases hf : chain.firstFailure? plan s with
  | some stop =>
    obtain ⟨q, failure⟩ := stop
    have hr := h.failed chain s hf
    refine ⟨h.queries chain s, fun e => ?_, fun e he => ?_⟩
    · rw [hr, hf]
      constructor
      · rintro ⟨he, -⟩
        cases he
        exact ⟨q, failure, rfl, rfl⟩
      · rintro ⟨q', failure', he, rfl⟩
        cases he
        exact ⟨rfl, FactoryError.stage_unanswered q failure⟩
    · rw [hr] at he
      cases he
      rw [FactoryError.stage_unanswered]
      decide
  | none =>
    obtain ⟨answers, hg⟩ := Chain.exists_gives_of_firstFailure?_eq_none hplan hf
    have hr := h.answered chain s hg
    refine ⟨h.queries chain s, fun e => ?_, fun e he => ?_⟩
    · rw [hr, hf]
      constructor
      · rintro ⟨he, hstage⟩
        exact absurd hstage (hout answers e he).1
      · rintro ⟨q, failure, he, -⟩
        cases he
    · exact (hout answers e (hr.symm.trans he)).2

theorem Operation.followsUnlessRefused {α : Type} {op : Operation α} {type : SupportedType}
    {args : TxArgs} {plan : List Query} {outcome : Answers → Except FactoryError α}
    (hrefused : ∀ field, args.foreignField? type = some field →
      op = throw (.fieldNotAllowed type field))
    (hasks : args.foreignField? type = none → op.Asks plan outcome) (hplan : plan.Nodup)
    (hout : ∀ answers, NeverQueryError (outcome answers)) {σ : Type} (chain : Chain σ) (s : σ) :
    (op.hold chain s).FollowsUnlessRefused chain s type args plan := by
  rw [Conversation.FollowsUnlessRefused]
  cases h : args.foreignField? type with
  | some field => rw [hrefused field h, hold_throw]
  | none => exact (hasks h).follows hplan hout chain s

namespace Factory

variable {σ : Type} (f : Factory) (sender : Address) (signer : Signer) (args : TxArgs)
  (chain : Chain σ) (s : σ)

theorem neverQueryError_assembled (answers : Answers) :
    NeverQueryError (f.assembled sender answers args) :=
  neverQueryError_mapError _ fun _ => by simp [FactoryError.stage]

theorem neverQueryError_sign (tx : UnsignedTx) : NeverQueryError (sign signer tx) :=
  neverQueryError_mapError _ fun _ => by simp [FactoryError.stage]

theorem populate_follows :
    ((f.populate sender args).hold chain s).FollowsUnlessRefused chain s (typeFor args) args
      (f.plan sender (typeFor args) args) :=
  Operation.followsUnlessRefused (fun field h => by rw [populate_eq, h]) asks_populate
    (f.nodup_plan _ _ _) (fun _ _ he => by cases he) chain s

theorem defaultArgs_follows (type : SupportedType) :
    ((f.defaultArgs sender type.toTxType args).hold chain s).FollowsUnlessRefused chain s type args
      (f.plan sender type (withLiterals sender type args)) :=
  Operation.followsUnlessRefused (fun field h => by rw [defaultArgs_eq, h]) asks_defaultArgs
    (f.nodup_plan _ _ _) (fun _ _ he => by cases he) chain s

theorem unsignedTx_follows :
    ((f.unsignedTx signer args).hold chain s).FollowsUnlessRefused chain s (typeFor args) args
      (f.plan signer.address (typeFor args) args) :=
  Operation.followsUnlessRefused (fun _ => f.unsignedTx_of_refused signer)
    (f.asks_unsignedTx signer) (f.nodup_plan _ _ _)
    (fun answers => f.neverQueryError_assembled _ args answers) chain s

theorem uncheckedTx_follows :
    ((f.uncheckedTx signer args).hold chain s).FollowsUnlessRefused chain s (typeFor args) args
      (f.plan signer.address (typeFor args) args) :=
  Operation.followsUnlessRefused (fun _ => f.uncheckedTx_of_refused signer)
    (f.asks_uncheckedTx signer) (f.nodup_plan _ _ _)
    (fun answers => (f.neverQueryError_assembled _ args answers).bind
      (neverQueryError_sign signer)) chain s

theorem signedTx_follows :
    ((f.signedTx signer args).hold chain s).FollowsUnlessRefused chain s (typeFor args) args
      (f.plan signer.address (typeFor args) args) :=
  Operation.followsUnlessRefused (fun _ => f.signedTx_of_refused signer)
    (f.asks_signedTx signer) (f.nodup_plan _ _ _)
    (fun answers => ((f.neverQueryError_assembled _ args answers).bind
      (neverQueryError_sign signer)).bind neverQueryError_checked) chain s

/-! ## Types without defaults -/

theorem hold_defaultArgs_of_unsupported {type : TxType} {e : UnsupportedType}
    (h : SupportedType.ofTxType type = .error e) :
    (f.defaultArgs sender type args).hold chain s =
      ⟨.error (.unsupportedType e), [.reported .unsupportedType], s⟩ := by
  rw [defaultArgs, h]
  rfl

/-! ## Chain messages -/

variable {f signer args chain s}

/-- Without a transaction there is no message, and nothing more is asked. -/
theorem hold_chainMessage_of_error {e : FactoryError}
    (h : ((f.signedTx signer args).hold chain s).result = .error e) :
    ((f.chainMessage signer args).hold chain s).result = .error e ∧
      ((f.chainMessage signer args).hold chain s).queries =
        ((f.signedTx signer args).hold chain s).queries := by
  rw [chainMessage, Operation.hold_bind_of_error chain h]
  exact ⟨rfl, rfl⟩

/-- With one, the base fee is asked for.  Its failure is the end of it. -/
theorem hold_chainMessage_of_failure {tx : SignedTx} {failure : Failure}
    (h : ((f.signedTx signer args).hold chain s).result = .ok tx)
    (ha : (chain.answer .baseFee ((f.signedTx signer args).hold chain s).state).1 =
      .error failure) :
    ((f.chainMessage signer args).hold chain s).result = .error (.baseFee failure) ∧
      ((f.chainMessage signer args).hold chain s).queries =
        ((f.signedTx signer args).hold chain s).queries ++ [.baseFee] := by
  rw [chainMessage, Operation.hold_bind_of_ok chain h, Conversation.queries_followedBy,
    Conversation.result_followedBy]
  have hask : ((Operation.ask .baseFee .baseFee).hold chain
      ((f.signedTx signer args).hold chain s).state).result = .error (.baseFee failure) := by
    rw [Operation.hold_ask, ha]
    rfl
  rw [Operation.hold_bind_of_error chain hask]
  exact ⟨rfl, rfl⟩

/-- With an answer the transaction is converted. -/
theorem hold_chainMessage_of_answer {tx : SignedTx} {baseFee : Price}
    (h : ((f.signedTx signer args).hold chain s).result = .ok tx)
    (ha : (chain.answer .baseFee ((f.signedTx signer args).hold chain s).state).1 =
      .ok baseFee) :
    ((f.chainMessage signer args).hold chain s).result =
        (tx.toMessage ⟨f.chainId⟩ (some baseFee)).mapError .signerContext ∧
      ((f.chainMessage signer args).hold chain s).queries =
        ((f.signedTx signer args).hold chain s).queries ++ [.baseFee] := by
  rw [chainMessage, Operation.hold_bind_of_ok chain h, Conversation.queries_followedBy,
    Conversation.result_followedBy]
  have hask : ((Operation.ask .baseFee .baseFee).hold chain
      ((f.signedTx signer args).hold chain s).state).result = .ok baseFee := by
    rw [Operation.hold_ask, ha]
    rfl
  rw [Operation.hold_bind_of_ok chain hask]
  exact ⟨rfl, rfl⟩

theorem chainMessage_addsBaseFee :
    ((f.chainMessage signer args).hold chain s).AddsBaseFee chain
      ((f.signedTx signer args).hold chain s) := by
  cases hs : ((f.signedTx signer args).hold chain s).result with
  | error e =>
    obtain ⟨hr, hq⟩ := hold_chainMessage_of_error hs
    have hstage := (f.signedTx_follows signer args chain s).stage_ne hs
    refine ⟨?_, fun e' _ => ?_, fun failure => ?_⟩
    · rw [hq, hs]
      exact (List.append_nil _).symm
    · rw [hr, hs]
      constructor <;> intro he <;> cases he <;> rfl
    · rw [hr, hs]
      constructor
      · intro he
        cases he
        exact absurd rfl hstage
      · rintro ⟨⟨tx, htx⟩, -⟩
        cases htx
  | ok tx =>
    cases ha : (chain.answer .baseFee ((f.signedTx signer args).hold chain s).state).1 with
    | error failure =>
      obtain ⟨hr, hq⟩ := hold_chainMessage_of_failure hs ha
      refine ⟨by rw [hq, hs]; rfl, fun e he => ?_, fun failure' => ?_⟩
      · rw [hr, hs]
        constructor <;> intro h <;> cases h
        exact absurd rfl he
      · rw [hr, hs, ha]
        constructor
        · intro h
          cases h
          exact ⟨⟨tx, rfl⟩, rfl⟩
        · rintro ⟨-, h⟩
          cases h
          rfl
    | ok baseFee =>
      obtain ⟨hr, hq⟩ := hold_chainMessage_of_answer hs ha
      refine ⟨by rw [hq, hs]; rfl, fun e he => ?_, fun failure => ?_⟩
      · rw [hr, hs]
        constructor <;> intro h
        · obtain ⟨e', -, rfl⟩ := exists_of_mapError_eq_error h
          exact absurd rfl he
        · cases h
      · rw [hr, hs, ha]
        constructor
        · intro h
          obtain ⟨e', -, he'⟩ := exists_of_mapError_eq_error h
          cases he'
        · rintro ⟨-, h⟩
          cases h

/-! ## All operations -/

/-- **What every operation asks, and in which error a failing query ends.** -/
theorem queries_of_operations (f : Factory) (sender : Address) (signer : Signer) (args : TxArgs)
    (chain : Chain σ) (s : σ) :
    ((f.populate sender args).hold chain s).FollowsUnlessRefused chain s (typeFor args) args
        (f.plan sender (typeFor args) args) ∧
      (∀ type, ((f.defaultArgs sender type.toTxType args).hold chain s).FollowsUnlessRefused
        chain s type args (f.plan sender type (withLiterals sender type args))) ∧
      (∀ type e, SupportedType.ofTxType type = .error e →
        ((f.defaultArgs sender type args).hold chain s).result = .error (.unsupportedType e) ∧
          ((f.defaultArgs sender type args).hold chain s).queries = []) ∧
      ((f.unsignedTx signer args).hold chain s).FollowsUnlessRefused chain s (typeFor args) args
        (f.plan signer.address (typeFor args) args) ∧
      ((f.uncheckedTx signer args).hold chain s).FollowsUnlessRefused chain s (typeFor args) args
        (f.plan signer.address (typeFor args) args) ∧
      ((f.signedTx signer args).hold chain s).FollowsUnlessRefused chain s (typeFor args) args
        (f.plan signer.address (typeFor args) args) ∧
      ((f.chainMessage signer args).hold chain s).AddsBaseFee chain
        ((f.signedTx signer args).hold chain s) := by
  refine ⟨f.populate_follows sender args chain s, f.defaultArgs_follows sender args chain s,
    fun type e h => ?_, f.unsignedTx_follows signer args chain s,
    f.uncheckedTx_follows signer args chain s, f.signedTx_follows signer args chain s,
    chainMessage_addsBaseFee⟩
  rw [hold_defaultArgs_of_unsupported f sender args chain s h]
  exact ⟨rfl, rfl⟩

/-- On a chain that does not know its base fee, all queries up to that one are asked, and none for
the gas limit. -/
theorem queries_without_baseFee :
    let f : Factory := ⟨1, {}⟩
    let signer : Signer := ⟨⟨1, by decide, by decide⟩, none⟩
    let chain : Chain Unit := ⟨fun
      | .baseFee, s => (.error ⟨"no block", []⟩, s)
      | _, s => (.ok 0, s)⟩
    ((f.unsignedTx signer {}).hold chain ()).queries =
        [.nonce signer.address, .maxPriorityFee, .baseFee] ∧
      ((f.unsignedTx signer {}).hold chain ()).result =
        .error (.defaulting .maxFeePerGas ⟨"no block", []⟩) ∧
      ((f.defaultArgs signer.address .blob {}).hold chain ()).queries = [] := by
  intro f signer chain
  obtain ⟨-, -, hunsupported, hunsigned, -⟩ :=
    queries_of_operations f signer.address signer {} chain ()
  have hfollows : ((f.unsignedTx signer {}).hold chain ()).Follows chain ()
      (f.plan signer.address .dynamicFee {}) := hunsigned
  exact ⟨hfollows.queries,
    ((hfollows.defaulting (.unanswered .baseFee ⟨"no block", []⟩)).2 ⟨_, _, rfl, rfl⟩).1,
    (hunsupported .blob _ rfl).2⟩

end Factory
end TxForge
