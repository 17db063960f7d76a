import TxForge.Factory.Call
import TxForge.Proofs.QueryOrder

/-!
# What a conversation is made of

The transcript of a factory's work is a sequence of passages, of three kinds: a query that is no
estimation, the report of a field that was filled in, and an estimation, which is announced before
and reported on afterwards.  Invariants of transcripts are proved once for each kind of passage,
and hold of every operation then.

* `Factory.Passage`, `Factory.Passages` — the passages, and sequences of them.
* `Operation.Routine` — what operations are put together from.  Everything up to a signature is
  routine, and what is said of routine operations is proved by induction on how they are put
  together: they make passages and nothing else (`Operation.Routine.passages`).
* `Factory.transcript_signedTx`, `Factory.transcript_chainMessage` — what stands behind the passages
  once there is a signature: the report of a transaction, and a last query for a message.
* `Factory.routine_operation` — a call is routine, or it is one of three others.
* `Factory.exists_of_estimateGas_mem` — whatever call is made, every estimation that is asked for
  is that of some args.
-/

set_option autoImplicit false

namespace TxForge

/-- The report of a field that was filled in from the chain. -/
def Event.isDefault : Event → Bool
  | .defaultedNonce .. | .defaultedTip .. | .defaultedFeeCap .. => true
  | _ => false

namespace Factory

variable (f : Factory)

/-- The query for the gas that a call of the args uses. -/
def gasQuery (caller : Option Address) (args : TxArgs) : Query :=
  .estimateGas (estimationRequest caller args).toText f.config.gasCap

/-- A piece of a transcript that is not divided any further. -/
inductive Passage : List Entry → Prop
  | question {q : Query} (reply : q.Reply) (h : q.kind ≠ .estimateGas) : Passage [.asked q reply]
  | default {e : Event} (h : e.isDefault = true) : Passage [.reported e]
  | estimate (caller : Option Address) (args : TxArgs) (gas : Gas) :
    Passage [.reported .estimating, .asked (f.gasQuery caller args) (.ok gas),
      .reported (.estimated caller args.recipient gas)]
  | noEstimate (caller : Option Address) (args : TxArgs) (failure : Failure) :
    Passage [.reported .estimating, .asked (f.gasQuery caller args) (.error failure),
      .reported (.estimationFailed caller args.recipient failure)]

/-- Passages, one after the other. -/
inductive Passages : List Entry → Prop
  | nil : Passages []
  | cons {passage rest : List Entry} (h : f.Passage passage) (hrest : Passages rest) :
    Passages (passage ++ rest)

variable {f}

theorem Passage.passages {passage : List Entry} (h : f.Passage passage) : f.Passages passage := by
  have hall := Passages.cons h .nil
  rwa [List.append_nil] at hall

theorem Passages.append {before rest : List Entry} (h : f.Passages before)
    (hrest : f.Passages rest) : f.Passages (before ++ rest) := by
  induction h with
  | nil => exact hrest
  | cons hpassage _ ih =>
    rw [List.append_assoc]
    exact .cons hpassage ih

/-- An estimation that is asked for in a passage is that of some args. -/
theorem Passages.exists_of_asked {t : List Entry} (h : f.Passages t) {q : Query}
    (hq : q ∈ t.filterMap Entry.query?) (hkind : q.kind = .estimateGas) :
    ∃ caller args, q = f.gasQuery caller args := by
  induction h with
  | nil => simp at hq
  | cons hpassage _ ih =>
    rw [List.filterMap_append, List.mem_append] at hq
    rcases hq with hq | hq
    · cases hpassage with
      | question reply h =>
        simp only [List.filterMap_cons, Entry.query?, List.filterMap_nil, List.mem_singleton] at hq
        exact absurd (hq ▸ hkind) h
      | default h => simp [Entry.query?] at hq
      | estimate caller args _ | noEstimate caller args _ =>
        refine ⟨caller, args, ?_⟩
        simpa [Entry.query?, eq_comm] using hq
    · exact ih hq

end Factory

/-! ## Estimations -/

namespace Factory

variable {σ : Type} {chain : Chain σ} {s : σ} {f : Factory} {args : TxArgs}
  {caller : Option Address}

theorem hold_estimateGasLimit_of_ok {gas : Gas}
    (h : (chain.answer (f.gasQuery caller args) s).1 = .ok gas) :
    (f.estimateGasLimit caller args).hold chain s =
      ⟨.ok gas, [.reported .estimating, .asked (f.gasQuery caller args) (.ok gas),
        .reported (.estimated caller args.recipient gas)],
        (chain.answer (f.gasQuery caller args) s).2⟩ := by
  have hanswer : (chain.answer (.estimateGas (estimationRequest caller args).toText
      f.config.gasCap) s).1 = .ok gas := h
  rw [hold_estimateGasLimit]
  simp only [hanswer]
  rfl

theorem hold_estimateGasLimit_of_error {failure : Failure}
    (h : (chain.answer (f.gasQuery caller args) s).1 = .error failure) :
    (f.estimateGasLimit caller args).hold chain s =
      ⟨.error (.estimation failure), [.reported .estimating,
        .asked (f.gasQuery caller args) (.error failure),
        .reported (.estimationFailed caller args.recipient failure)],
        (chain.answer (f.gasQuery caller args) s).2⟩ := by
  have hanswer : (chain.answer (.estimateGas (estimationRequest caller args).toText
      f.config.gasCap) s).1 = .error failure := h
  rw [hold_estimateGasLimit]
  simp only [hanswer]
  rfl

end Factory

/-! ## Routine operations -/

/-- The error arises without the chain: args are refused or not complete, or the signer refuses. -/
def FactoryError.isOwn : FactoryError → Bool
  | .fieldNotAllowed .. | .assembly _ | .signing _ => true
  | _ => false

namespace Operation

variable {α β : Type} {f : Factory}

/-- The operation is put together from queries for a field, reports of what they came to,
estimations, and errors that arise without the chain. -/
inductive Routine (f : Factory) : {α : Type} → Operation α → Prop
  | pure {α : Type} (a : α) : Routine f (Pure.pure a : Operation α)
  | throw {α : Type} {e : FactoryError} (h : e.isOwn = true) :
    Routine f (MonadExcept.throw e : Operation α)
  | ask {q : Query} (field : DefaultedField) (h : q.kind ≠ .estimateGas) :
    Routine f (Operation.ask q (.defaulting field))
  | report {e : Event} (h : e.isDefault = true) : Routine f (Operation.report e)
  | estimate (caller : Option Address) (args : TxArgs) : Routine f (f.estimateGasLimit caller args)
  | adapt {α : Type} {x : Operation α} (hx : Routine f x) :
    Routine f (ExceptT.adapt .defaultingGasLimit x)
  | bind {α β : Type} {x : Operation α} {k : α → Operation β} (hx : Routine f x)
    (hk : ∀ a, Routine f (k a)) : Routine f (x >>= k)

theorem routine_ofExcept {ε : Type} {onError : ε → FactoryError} (r : Except ε α)
    (h : ∀ e, r = .error e → (onError e).isOwn = true) : (ofExcept onError r).Routine f := by
  cases r with
  | ok a => exact .pure a
  | error e => exact .throw (h e rfl)

/-- **A routine operation makes passages and nothing else.** -/
theorem Routine.passages {op : Operation α} (h : op.Routine f) {σ : Type} (chain : Chain σ)
    (s : σ) : f.Passages (op.hold chain s).transcript := by
  induction h generalizing s with
  | pure a => exact .nil
  | throw h => exact .nil
  | ask field hkind =>
    rw [hold_ask]
    exact (Factory.Passage.question _ hkind).passages
  | report h => exact (Factory.Passage.default h).passages
  | estimate caller args =>
    cases hr : (chain.answer (f.gasQuery caller args) s).1 with
    | ok gas =>
      rw [Factory.hold_estimateGasLimit_of_ok hr]
      exact (Factory.Passage.estimate caller args gas).passages
    | error failure =>
      rw [Factory.hold_estimateGasLimit_of_error hr]
      exact (Factory.Passage.noEstimate caller args failure).passages
  | adapt hx ih =>
    rw [hold_adapt]
    exact ih s
  | @bind α β x k hx hk ihx ihk =>
    cases hr : (x.hold chain s).result with
    | ok a =>
      rw [hold_bind_of_ok chain hr]
      exact (ihx s).append (ihk a _)
    | error e =>
      rw [hold_bind_of_error chain hr]
      exact ihx s

/-- It fails at neither of the two stages that the counters tell from the others. -/
theorem Routine.stage {op : Operation α} (h : op.Routine f) {σ : Type} (chain : Chain σ) (s : σ)
    {e : FactoryError} (he : (op.hold chain s).result = .error e) :
    e.stage ≠ .unsupportedType ∧ e.stage ≠ .conversion := by
  induction h generalizing s e with
  | pure a => cases he
  | @throw α e' h =>
    cases he
    cases e' <;> simp [FactoryError.isOwn] at h <;> simp [FactoryError.stage]
  | ask field hkind =>
    rw [hold_ask] at he
    obtain ⟨failure, -, rfl⟩ := exists_of_mapError_eq_error he
    simp [FactoryError.stage]
  | report h => cases he
  | estimate caller args =>
    cases hr : (chain.answer (f.gasQuery caller args) s).1 with
    | ok gas =>
      rw [Factory.hold_estimateGasLimit_of_ok hr] at he
      cases he
    | error failure =>
      rw [Factory.hold_estimateGasLimit_of_error hr] at he
      cases he
      simp [FactoryError.stage]
  | adapt hx ih =>
    rw [hold_adapt] at he
    obtain ⟨cause, -, rfl⟩ := exists_of_mapError_eq_error he
    simp [FactoryError.stage]
  | @bind α β x k hx hk ihx ihk =>
    cases hr : (x.hold chain s).result with
    | ok a =>
      rw [hold_bind_of_ok chain hr, Conversation.result_followedBy] at he
      exact ihk a _ he
    | error e' =>
      rw [hold_bind_of_error chain hr] at he
      cases he
      exact ihx s hr

end Operation

namespace Factory

variable (f : Factory) (sender : Address) (signer : Signer) (args : TxArgs)

/-! ## The operations up to a signature -/

theorem routine_fillNonce : (fillNonce sender args).Routine f := by
  rw [fillNonce]
  cases args.nonce with
  | some nonce => exact .pure args
  | none =>
    exact (Operation.Routine.ask .nonce (by simp [Query.kind])).bind fun _ =>
      (Operation.Routine.report rfl).bind fun _ => .pure _

theorem routine_tipFor : (tipFor sender args).Routine f := by
  rw [tipFor]
  cases args.maxPriorityFeePerGas with
  | some tip => exact .pure tip
  | none =>
    exact (Operation.Routine.ask .maxPriorityFeePerGas (by simp [Query.kind])).bind fun _ =>
      (Operation.Routine.report rfl).bind fun _ => .pure _

theorem routine_feeCapFor (tip : Price) : (feeCapFor sender tip args).Routine f := by
  rw [feeCapFor]
  cases args.maxFeePerGas with
  | some feeCap => exact .pure feeCap
  | none =>
    exact (Operation.Routine.ask .maxFeePerGas (by simp [Query.kind])).bind fun _ =>
      (Operation.Routine.report rfl).bind fun _ => .pure _

theorem routine_fillPrices (type : SupportedType) : (fillPrices sender type args).Routine f := by
  cases type with
  | dynamicFee =>
    exact (f.routine_tipFor sender args).bind fun tip =>
      (f.routine_feeCapFor sender args tip).bind fun _ => .pure _
  | legacy | accessList =>
    simp only [fillPrices]
    split
    · exact .pure args
    · exact .throw rfl

theorem routine_fillGasLimit : (f.fillGasLimit sender args).Routine f := by
  rw [fillGasLimit]
  cases args.gasLimit with
  | some gasLimit => exact .pure args
  | none => exact (Operation.Routine.estimate (some sender) args).adapt.bind fun _ => .pure _

theorem routine_populateFor (type : SupportedType) :
    (f.populateFor sender type args).Routine f :=
  (f.routine_fillNonce sender _).bind fun _ =>
    (f.routine_fillPrices sender _ type).bind fun _ => f.routine_fillGasLimit sender _

theorem routine_checkFields (type : SupportedType) :
    (Operation.ofExcept id (checkFields type args)).Routine f := by
  refine Operation.routine_ofExcept _ fun e he => ?_
  rw [checkFields] at he
  cases hf : args.foreignField? type with
  | some field =>
    rw [hf] at he
    cases he
    rfl
  | none =>
    rw [hf] at he
    cases he

theorem routine_populate : (f.populate sender args).Routine f :=
  (f.routine_checkFields args _).bind fun _ => f.routine_populateFor sender args _

/-- Defaulting is routine for every type that has defaults. -/
theorem routine_defaultArgs {type : TxType} {supported : SupportedType}
    (h : SupportedType.ofTxType type = .ok supported) :
    (f.defaultArgs sender type args).Routine f := by
  rw [defaultArgs, h]
  exact (f.routine_checkFields args supported).bind fun _ => f.routine_populateFor sender _ supported

theorem routine_unsignedTx : (f.unsignedTx signer args).Routine f :=
  (f.routine_populate signer.address args).bind fun _ =>
    Operation.routine_ofExcept _ fun _ _ => rfl

theorem routine_sign (tx : UnsignedTx) : (Operation.ofExcept id (sign signer tx)).Routine f := by
  refine Operation.routine_ofExcept _ fun e he => ?_
  obtain ⟨e', -, rfl⟩ := exists_of_mapError_eq_error he
  rfl

theorem routine_uncheckedTx : (f.uncheckedTx signer args).Routine f :=
  (f.routine_unsignedTx signer args).bind fun tx => f.routine_sign signer tx

/-! ## Signed transactions and messages -/

section Endings

variable {σ : Type} {chain : Chain σ} {s : σ} {f : Factory} {signer : Signer} {args : TxArgs}

/-- A transaction that is handed out is reported, and nothing else happens behind its signature. -/
theorem transcript_signedTx :
    ((f.signedTx signer args).hold chain s).transcript =
      ((f.uncheckedTx signer args).hold chain s).transcript ++
        match ((f.signedTx signer args).hold chain s).result with
        | .ok tx => [.reported (.signed tx.sender tx.hash tx.envelope.txType)]
        | .error _ => [] := by
  cases hr : ((f.uncheckedTx signer args).hold chain s).result with
  | error e =>
    rw [signedTx, Operation.hold_bind_of_error chain hr]
    exact (List.append_nil _).symm
  | ok tx =>
    rw [signedTx, Operation.hold_bind_of_ok chain hr]
    cases hv : tx.validate with
    | error e =>
      rw [Operation.hold_bind_of_error (e := .validation e) chain rfl]
      rfl
    | ok u =>
      rw [Operation.hold_bind_of_ok (a := u) chain rfl]
      rfl

/-- Checking a transaction asks nothing. -/
theorem queries_signedTx : ((f.signedTx signer args).hold chain s).queries =
    ((f.uncheckedTx signer args).hold chain s).queries := by
  rw [Conversation.queries, transcript_signedTx, List.filterMap_append]
  cases ((f.signedTx signer args).hold chain s).result <;> exact List.append_nil _

/-- It fails at none of the two stages either. -/
theorem stage_signedTx {e : FactoryError}
    (h : ((f.signedTx signer args).hold chain s).result = .error e) :
    e.stage ≠ .unsupportedType ∧ e.stage ≠ .conversion := by
  cases hr : ((f.uncheckedTx signer args).hold chain s).result with
  | error e' =>
    rw [signedTx, Operation.hold_bind_of_error chain hr] at h
    cases h
    exact (f.routine_uncheckedTx signer args).stage chain s hr
  | ok tx =>
    rw [signedTx, Operation.hold_bind_of_ok chain hr, Conversation.result_followedBy] at h
    generalize ((f.uncheckedTx signer args).hold chain s).state = c at h
    cases hv : tx.validate with
    | error e' =>
      have hcheck : ((Operation.ofExcept .validation tx.validate).hold chain c).result =
          .error (.validation e') := by
        rw [Operation.hold_ofExcept, hv]
        rfl
      rw [Operation.hold_bind_of_error chain hcheck] at h
      cases h
      simp [FactoryError.stage]
    | ok u =>
      have hcheck : ((Operation.ofExcept .validation tx.validate).hold chain c).result = .ok u := by
        rw [Operation.hold_ofExcept, hv]
        rfl
      rw [Operation.hold_bind_of_ok chain hcheck] at h
      cases h

/-- For a message the base fee is asked for once more, if there is a transaction. -/
theorem transcript_chainMessage :
    ((f.chainMessage signer args).hold chain s).transcript =
      ((f.signedTx signer args).hold chain s).transcript ++
        match ((f.signedTx signer args).hold chain s).result with
        | .ok _ =>
          [.asked .baseFee (chain.answer .baseFee ((f.signedTx signer args).hold chain s).state).1]
        | .error _ => [] := by
  cases hr : ((f.signedTx signer args).hold chain s).result with
  | error e =>
    rw [chainMessage, Operation.hold_bind_of_error chain hr]
    exact (List.append_nil _).symm
  | ok tx =>
    rw [chainMessage, Operation.hold_bind_of_ok chain hr]
    cases ha : (chain.answer .baseFee ((f.signedTx signer args).hold chain s).state).1 with
    | error failure =>
      have hask : ((Operation.ask .baseFee .baseFee).hold chain
          ((f.signedTx signer args).hold chain s).state).result = .error (.baseFee failure) := by
        rw [Operation.hold_ask, ha]
        rfl
      rw [Operation.hold_bind_of_error chain hask, Operation.hold_ask, ha]
      rfl
    | ok baseFee =>
      have hask : ((Operation.ask .baseFee .baseFee).hold chain
          ((f.signedTx signer args).hold chain s).state).result = .ok baseFee := by
        rw [Operation.hold_ask, ha]
        rfl
      rw [Operation.hold_bind_of_ok chain hask, Operation.hold_ask, ha]
      rfl

/-- There is a transaction behind a message, and behind a failure to convert one. -/
theorem signedTx_of_chainMessage :
    (∃ tx, ((f.signedTx signer args).hold chain s).result = .ok tx) ↔
      (∃ message, ((f.chainMessage signer args).hold chain s).result = .ok message) ∨
        ∃ e, ((f.chainMessage signer args).hold chain s).result = .error e ∧
          e.stage = .conversion := by
  cases hr : ((f.signedTx signer args).hold chain s).result with
  | error e =>
    have hmessage := (hold_chainMessage_of_error hr).1
    have hstage := (stage_signedTx hr).2
    simp [hmessage, hstage]
  | ok tx =>
    cases ha : (chain.answer .baseFee ((f.signedTx signer args).hold chain s).state).1 with
    | error failure =>
      have hmessage := (hold_chainMessage_of_failure hr ha).1
      simp [hmessage, FactoryError.stage]
    | ok baseFee =>
      have hmessage := (hold_chainMessage_of_answer hr ha).1
      cases hm : tx.toMessage ⟨f.chainId⟩ (some baseFee) with
      | ok message => simp [hmessage, hm, Except.mapError]
      | error e => simp [hmessage, hm, Except.mapError, FactoryError.stage]

end Endings

/-! ## All calls -/

/-- A call is routine, or it is one of three: a type without defaults is asked for, or a transaction
that is checked, or a message. -/
theorem routine_operation (f : Factory) (call : Call) :
    (call.operation f).Routine f ∨
      (∃ sender type args e, SupportedType.ofTxType type = .error e ∧
        call = .defaultArgs sender type args) ∨
      (∃ signer args, call = .signedTx signer args) ∨
      ∃ signer args, call = .chainMessage signer args := by
  cases call with
  | chainId => exact .inl (.pure f.chainId)
  | defaultArgs sender type args =>
    cases htype : SupportedType.ofTxType type with
    | ok supported => exact .inl (f.routine_defaultArgs sender args htype)
    | error e => exact .inr (.inl ⟨sender, type, args, e, htype, rfl⟩)
  | populate sender args => exact .inl (f.routine_populate sender args)
  | estimateGasLimit caller args => exact .inl (.estimate caller args)
  | unsignedTx signer args => exact .inl (f.routine_unsignedTx signer args)
  | sign signer tx => exact .inl (f.routine_sign signer tx)
  | uncheckedTx signer args => exact .inl (f.routine_uncheckedTx signer args)
  | signedTx signer args => exact .inr (.inr (.inl ⟨signer, args, rfl⟩))
  | chainMessage signer args => exact .inr (.inr (.inr ⟨signer, args, rfl⟩))

/-- **Every estimation that a factory asks for is that of some args**, whatever call it is for and
whatever the chain replies. -/
theorem exists_of_estimateGas_mem {σ : Type} {f : Factory} {call : Call} {chain : Chain σ} {s : σ}
    {q : Query} (hq : q ∈ ((call.operation f).hold chain s).queries)
    (hkind : q.kind = .estimateGas) : ∃ caller args, q = f.gasQuery caller args := by
  have hroutine {α : Type} {op : Operation α} (h : op.Routine f)
      (hq : q ∈ (op.hold chain s).queries) : ∃ caller args, q = f.gasQuery caller args :=
    (h.passages chain s).exists_of_asked hq hkind
  have hsigned {signer : Signer} {args : TxArgs}
      (hq : q ∈ ((f.signedTx signer args).hold chain s).queries) :
      ∃ caller args, q = f.gasQuery caller args := by
    rw [queries_signedTx] at hq
    exact hroutine (f.routine_uncheckedTx signer args) hq
  rcases f.routine_operation call with h | ⟨sender, type, args, e, htype, rfl⟩ |
    ⟨signer, args, rfl⟩ | ⟨signer, args, rfl⟩
  · exact hroutine h hq
  · rw [Call.operation, hold_defaultArgs_of_unsupported f sender args chain s htype] at hq
    simp [Conversation.queries, Entry.query?] at hq
  · exact hsigned hq
  · rw [Call.operation, Conversation.queries, transcript_chainMessage, List.filterMap_append,
      List.mem_append] at hq
    rcases hq with hq | hq
    · exact hsigned hq
    · -- the query behind the transaction is one for the base fee
      cases hr : ((f.signedTx signer args).hold chain s).result with
      | error e => simp [hr] at hq
      | ok tx =>
        simp only [hr, List.filterMap_cons, Entry.query?, List.filterMap_nil,
          List.mem_singleton] at hq
        subst hq
        cases hkind

end Factory
end TxForge
