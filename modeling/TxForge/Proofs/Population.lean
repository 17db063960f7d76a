import Mathlib.Data.List.Nodup
import TxForge.Factory
import TxForge.Proofs.Interview

/-!
# Filling in args

What a factory asks in order to fill in args, and what it makes of the answers.

* `Factory.plan` — the queries: one for each field that is missing, in the order nonce, tip, fee
  cap, gas limit.  Which fields are missing shows before anything is asked, so the plan depends on
  the args alone.
* `Factory.filled` — the args afterwards, as a function of the answers.
* `Factory.asks_populateFor` — filling in asks the plan and comes to these args.

Both ways into it, `Factory.populate` and `Factory.defaultArgs`, either refuse the args before they
ask anything or go on with `Factory.populateFor` at a type that has a price to pay.
-/

set_option autoImplicit false

namespace TxForge

/-- The query for a field, if the field is not set. -/
def Query.ifMissing {α : Type} : Option α → Query → List Query
  | some _, _ => []
  | none, q => [q]

theorem Query.nodup_ifMissing {α : Type} (field : Option α) (q : Query) :
    (ifMissing field q).Nodup := by
  cases field <;> simp [ifMissing]

theorem Query.kinds_ifMissing_sublist {α : Type} (field : Option α) (q : Query) :
    ((ifMissing field q).map Query.kind).Sublist [q.kind] := by
  cases field <;> simp [ifMissing]

/-! ## The parts of an estimation -/

namespace Operation

variable {σ α : Type} (chain : Chain σ)

theorem hold_adapt (g : FactoryError → FactoryError) (op : Operation α) (s : σ) :
    hold (ExceptT.adapt g op) chain s =
      { op.hold chain s with result := (op.hold chain s).result.mapError g } := by
  have h : (ExceptT.adapt g op : Operation α).run =
      op.run >>= fun r => Dialogue.done (r.mapError g) := rfl
  rw [hold, h, Dialogue.run_bind]
  simp [Conversation.followedBy, Dialogue.run, hold]

end Operation

namespace Factory

variable {σ : Type} (f : Factory) (sender : Address)

/-- The query for a missing gas limit. -/
def estimation (args : TxArgs) : Query :=
  .estimateGas (estimationRequest (some sender) args).toText f.config.gasCap

theorem hold_estimateGasLimit (caller : Option Address) (args : TxArgs) (chain : Chain σ) (s : σ) :
    let q := Query.estimateGas (estimationRequest caller args).toText f.config.gasCap
    (f.estimateGasLimit caller args).hold chain s =
      match (chain.answer q s).1 with
      | .ok gas =>
        ⟨.ok gas, [.reported .estimating, .asked q (.ok gas),
          .reported (.estimated caller args.recipient gas)], (chain.answer q s).2⟩
      | .error failure =>
        ⟨.error (.estimation failure), [.reported .estimating, .asked q (.error failure),
          .reported (.estimationFailed caller args.recipient failure)], (chain.answer q s).2⟩ := by
  intro q
  have hrun : (f.estimateGasLimit caller args).run =
      .report .estimating (.ask q fun
        | .ok gas => .report (.estimated caller args.recipient gas) (.done (.ok gas))
        | .error failure =>
          .report (.estimationFailed caller args.recipient failure)
            (.done (.error (.estimation failure)))) := by
    refine congrArg (Dialogue.report _) (congrArg (Dialogue.ask q) (funext fun reply => ?_))
    cases reply <;> rfl
  rw [Operation.hold, hrun]
  simp only [Dialogue.run]
  cases (chain.answer q s).1 <;> rfl

/-! ## The plan -/

/-- The queries for the prices of a type. -/
def feeQueries (type : SupportedType) (args : TxArgs) : List Query :=
  match type with
  | .dynamicFee =>
    Query.ifMissing args.maxPriorityFeePerGas .maxPriorityFee ++
      Query.ifMissing args.maxFeePerGas .baseFee
  | _ => []

/-- The queries that fill in args for a type, in the order in which they are asked. -/
def plan (type : SupportedType) (args : TxArgs) : List Query :=
  Query.ifMissing args.nonce (.nonce sender) ++
    (feeQueries type args ++ Query.ifMissing args.gasLimit (f.estimation sender args))

theorem kinds_feeQueries_sublist (type : SupportedType) (args : TxArgs) :
    ((feeQueries type args).map Query.kind).Sublist [.maxPriorityFee, .baseFee] := by
  cases type with
  | legacy => exact List.nil_sublist _
  | accessList => exact List.nil_sublist _
  | dynamicFee =>
    rw [feeQueries, List.map_append]
    exact (Query.kinds_ifMissing_sublist _ _).append (Query.kinds_ifMissing_sublist _ _)

/-- **A plan has its kinds in one order**, and therefore each of them at most once. -/
theorem kinds_plan_sublist (type : SupportedType) (args : TxArgs) :
    ((f.plan sender type args).map Query.kind).Sublist
      [.nonce, .maxPriorityFee, .baseFee, .estimateGas] := by
  rw [plan, List.map_append, List.map_append]
  exact (Query.kinds_ifMissing_sublist _ _).append
    ((kinds_feeQueries_sublist type args).append (Query.kinds_ifMissing_sublist _ _))

theorem nodup_feeQueries (type : SupportedType) (args : TxArgs) : (feeQueries type args).Nodup :=
  ((kinds_feeQueries_sublist type args).nodup (by decide)).of_map

theorem nodup_plan (type : SupportedType) (args : TxArgs) : (f.plan sender type args).Nodup :=
  ((f.kinds_plan_sublist sender type args).nodup (by decide)).of_map

end Factory

/-! ## What the answers make of the args -/

namespace TxArgs

/-- The args name a gas price and pay a dynamic fee at once. -/
def MixesFees (args : TxArgs) : Prop :=
  args.gasPrice.isSome ∧ (args.maxFeePerGas.isSome ∨ args.maxPriorityFeePerGas.isSome)

variable (answers : Answers) (args : TxArgs)

/-- The tip: the caller's, or the one that the chain suggests. -/
def tipFrom : Price :=
  args.maxPriorityFeePerGas.getD (answers .maxPriorityFee)

/-- The fee cap of a dynamic-fee transaction: the caller's, or base fee and tip together. -/
def feeCapFrom : Price :=
  args.maxFeePerGas.getD (saturated 128 ((answers .baseFee).toNat + (args.tipFrom answers).toNat))

end TxArgs

namespace Factory

variable (f : Factory) (sender : Address) (answers : Answers)

/-- The gas limit: the caller's, or the estimate of the chain. -/
def gasLimitFrom (args : TxArgs) : Gas :=
  args.gasLimit.getD (answers (f.estimation sender args))

/-- The prices that the type needs. -/
def filledPrices (type : SupportedType) (args : TxArgs) : TxArgs :=
  match type with
  | .dynamicFee =>
    { args with
      maxPriorityFeePerGas := some (args.tipFrom answers)
      maxFeePerGas := some (args.feeCapFrom answers) }
  | _ => args

/-- The args with every field that the type needs: what the caller set, and the answers for the
rest. -/
def filled (type : SupportedType) (args : TxArgs) : TxArgs :=
  let numbered := { args with
    chainId := some (args.chainId.getD f.chainId)
    nonce := some (args.nonce.getD (answers (.nonce sender))) }
  { filledPrices answers type numbered with
    gasLimit := some (f.gasLimitFrom sender answers args) }

variable {f sender}

theorem asks_fillNonce (args : TxArgs) :
    (fillNonce sender args).Asks (Query.ifMissing args.nonce (.nonce sender)) fun answers =>
      .ok { args with nonce := some (args.nonce.getD (answers (.nonce sender))) } := by
  rw [fillNonce]
  cases h : args.nonce with
  | some nonce =>
    have hargs : { args with nonce := some nonce } = args := by rw [← h]
    show (pure args : Operation TxArgs).Asks [] fun _ => .ok { args with nonce := some nonce }
    rw [hargs]
    exact Operation.asks_pure args
  | none =>
    exact Operation.asks_query (.nonce sender) (fun _ => rfl) (.defaultedNonce sender)
      fun nonce => { args with nonce := some nonce }

theorem asks_tipFor (args : TxArgs) :
    (tipFor sender args).Asks (Query.ifMissing args.maxPriorityFeePerGas .maxPriorityFee)
      fun answers => .ok (args.tipFrom answers) := by
  simp only [tipFor, TxArgs.tipFrom]
  cases args.maxPriorityFeePerGas with
  | some tip => exact Operation.asks_pure tip
  | none => exact Operation.asks_query .maxPriorityFee (fun _ => rfl) (.defaultedTip sender) id

theorem asks_feeCapFor (tip : Price) (args : TxArgs) :
    (feeCapFor sender tip args).Asks (Query.ifMissing args.maxFeePerGas .baseFee) fun answers =>
      .ok (args.maxFeePerGas.getD (saturated 128 ((answers .baseFee).toNat + tip.toNat))) := by
  rw [feeCapFor]
  cases args.maxFeePerGas with
  | some feeCap => exact Operation.asks_pure feeCap
  | none =>
    exact Operation.asks_query .baseFee (fun _ => rfl)
      (fun baseFee => .defaultedFeeCap sender baseFee (saturated 128 (baseFee.toNat + tip.toNat)))
      fun baseFee => saturated 128 (baseFee.toNat + tip.toNat)

theorem asks_fillPrices {type : SupportedType} {args : TxArgs}
    (hprice : type = .dynamicFee ∨ args.gasPrice.isSome) :
    (fillPrices sender type args).Asks (feeQueries type args) fun answers =>
      .ok (filledPrices answers type args) := by
  cases type with
  | dynamicFee =>
    refine (asks_tipFor args).bind (Query.nodup_ifMissing _ _)
      (fun tips answers => .ok { args with
        maxPriorityFeePerGas := some (args.tipFrom tips)
        maxFeePerGas := some (args.maxFeePerGas.getD
          (saturated 128 ((answers .baseFee).toNat + (args.tipFrom tips).toNat))) })
      fun tips => ?_
    exact (asks_feeCapFor _ args).andThen
      (fun feeCap => .ok { args with
        maxPriorityFeePerGas := some (args.tipFrom tips)
        maxFeePerGas := some feeCap })
      fun _ => Operation.asks_pure _
  | legacy | accessList =>
    have h : args.gasPrice.isSome := hprice.resolve_left (by simp)
    simp only [fillPrices, feeQueries, filledPrices, h, if_true]
    exact Operation.asks_pure args

theorem asks_estimation (f : Factory) (sender : Address) (args : TxArgs) :
    Operation.Asks (ExceptT.adapt .defaultingGasLimit (f.estimateGasLimit (some sender) args))
      [f.estimation sender args] fun answers => .ok (answers (f.estimation sender args)) := by
  refine .single (f.estimation sender args) (fun gas : Gas => gas) fun chain s => ?_
  rw [Operation.hold_adapt, hold_estimateGasLimit]
  simp only [estimation]
  cases (chain.answer _ s).1 <;> exact ⟨rfl, rfl⟩

theorem asks_fillGasLimit (f : Factory) (sender : Address) (args : TxArgs) :
    (f.fillGasLimit sender args).Asks (Query.ifMissing args.gasLimit (f.estimation sender args))
      fun answers => .ok { args with gasLimit := some (f.gasLimitFrom sender answers args) } := by
  simp only [fillGasLimit, gasLimitFrom]
  cases h : args.gasLimit with
  | some gasLimit =>
    have hargs : { args with gasLimit := some gasLimit } = args := by rw [← h]
    show (pure args : Operation TxArgs).Asks [] fun _ => .ok { args with gasLimit := some gasLimit }
    rw [hargs]
    exact Operation.asks_pure args
  | none =>
    exact (asks_estimation f sender args).andThen
      (fun gasLimit => .ok { args with gasLimit := some gasLimit }) fun _ => Operation.asks_pure _

/-- **Filling in asks the plan**, and the answers alone decide what becomes of the args. -/
theorem asks_populateFor (f : Factory) (sender : Address) {type : SupportedType} {args : TxArgs}
    (hprice : type = .dynamicFee ∨ args.gasPrice.isSome) :
    (f.populateFor sender type args).Asks (f.plan sender type args) fun answers =>
      .ok (f.filled sender answers type args) := by
  refine (asks_fillNonce _).bind (Query.nodup_ifMissing _ _)
    (fun nonces answers => .ok { filledPrices answers type { args with
        chainId := some (args.chainId.getD f.chainId)
        nonce := some (args.nonce.getD (nonces (.nonce sender))) } with
      gasLimit := some (f.gasLimitFrom sender answers args) }) fun nonces => ?_
  refine (asks_fillPrices ?_).bind (nodup_feeQueries _ _)
    (fun fees answers => .ok { filledPrices fees type { args with
        chainId := some (args.chainId.getD f.chainId)
        nonce := some (args.nonce.getD (nonces (.nonce sender))) } with
      gasLimit := some (f.gasLimitFrom sender answers args) }) fun fees => ?_
  · exact hprice
  -- neither the nonce nor the prices show in a request for an estimation
  · cases type <;> exact asks_fillGasLimit f sender _

/-! ## The two ways in -/

/-- Population refuses the args, or fills them in for the type they are meant for. -/
theorem populate_eq (f : Factory) (sender : Address) (args : TxArgs) :
    f.populate sender args =
      match args.foreignField? (typeFor args) with
      | some field => throw (.fieldNotAllowed (typeFor args) field)
      | none => f.populateFor sender (typeFor args) args := by
  rw [populate, checkFields]
  cases args.foreignField? (typeFor args) <;> rfl

/-- Defaulting refuses the args, or fills them in for the type asked for. -/
theorem defaultArgs_eq (f : Factory) (sender : Address) (type : SupportedType) (args : TxArgs) :
    f.defaultArgs sender type.toTxType args =
      match args.foreignField? type with
      | some field => throw (.fieldNotAllowed type field)
      | none => f.populateFor sender type (withLiterals sender type args) := by
  rw [defaultArgs, SupportedType.ofTxType_toTxType]
  simp only [checkFields]
  cases args.foreignField? type <;> rfl

/-- Population refuses args for nothing but this. -/
theorem foreignField?_typeFor (args : TxArgs) :
    args.foreignField? (typeFor args) = none ↔ ¬ args.MixesFees := by
  rw [TxArgs.MixesFees, typeFor, TxArgs.impliedType]
  split
  · split
    · simp_all [TxArgs.foreignField?]
    · split <;> simp_all [TxArgs.foreignField?]
  · simp_all [TxArgs.foreignField?]

/-- It takes such args for a dynamic-fee transaction, which has no gas price. -/
theorem typeFor_of_mixesFees {args : TxArgs} (h : args.MixesFees) :
    typeFor args = .dynamicFee ∧ args.foreignField? (typeFor args) = some .gasPrice := by
  have htype : typeFor args = .dynamicFee := by
    rw [typeFor, if_pos h.1, TxArgs.impliedType, if_pos h.2]
  refine ⟨htype, ?_⟩
  rw [htype, TxArgs.foreignField?, if_pos h.1]

theorem typeFor_priced (args : TxArgs) : typeFor args = .dynamicFee ∨ args.gasPrice.isSome := by
  rw [typeFor]
  split
  · exact .inr ‹_›
  · exact .inl rfl

theorem withLiterals_priced (sender : Address) (type : SupportedType) (args : TxArgs) :
    type = .dynamicFee ∨ (withLiterals sender type args).gasPrice.isSome := by
  cases type <;> simp [withLiterals]

theorem asks_populate {args : TxArgs} (h : args.foreignField? (typeFor args) = none) :
    (f.populate sender args).Asks (f.plan sender (typeFor args) args) fun answers =>
      .ok (f.filled sender answers (typeFor args) args) := by
  rw [populate_eq, h]
  exact asks_populateFor f sender (typeFor_priced args)

theorem asks_defaultArgs {type : SupportedType} {args : TxArgs}
    (h : args.foreignField? type = none) :
    (f.defaultArgs sender type.toTxType args).Asks
      (f.plan sender type (withLiterals sender type args)) fun answers =>
        .ok (f.filled sender answers type (withLiterals sender type args)) := by
  rw [defaultArgs_eq, h]
  exact asks_populateFor f sender (withLiterals_priced sender type args)

end Factory
end TxForge
