import TxForge.Proofs.Population

/-!
# Complete args

Three places decide on the type of a transaction, each by a rule of its own: the type that a caller
asks for, `Factory.typeFor` before anything is filled in, and `TxArgs.impliedType` when the
transaction is assembled.  They agree on args that are complete for a type.

* `TxArgs.Complete type` — every field is set that the type needs, and none that it does not have.
* `Factory.filled_complete` — filling in makes args complete.
* `TxArgs.Complete.populateFor_eq` — complete args are not touched again, and nothing is asked.
* `TxArgs.Complete.ofArgs_eq` — they can be assembled, to a transaction of the type.

Together these make population idempotent: what comes out of it is a fixed point of both ways in,
on any chain and for any sender (`Factory.settled_of_population`).
-/

set_option autoImplicit false

namespace TxForge

/-! ## Completeness -/

/-- The args have what a transaction of the type needs, and nothing that it has no place for. -/
structure TxArgs.Complete (type : SupportedType) (args : TxArgs) : Prop where
  chainId : args.chainId.isSome
  nonce : args.nonce.isSome
  gasLimit : args.gasLimit.isSome
  /-- A dynamic fee, or a price. -/
  prices : if type = .dynamicFee then
    args.maxPriorityFeePerGas.isSome ∧ args.maxFeePerGas.isSome else args.gasPrice.isSome
  accessList : type = .accessList → args.accessList.isSome
  allowed : args.foreignField? type = none

namespace Factory

variable {f : Factory} {sender : Address} {answers : Answers} {type : SupportedType} {args : TxArgs}

@[simp] theorem filled_chainId :
    (f.filled sender answers type args).chainId = some (args.chainId.getD f.chainId) := by
  cases type <;> rfl

@[simp] theorem filled_nonce :
    (f.filled sender answers type args).nonce =
      some (args.nonce.getD (answers (.nonce sender))) := by
  cases type <;> rfl

@[simp] theorem filled_recipient :
    (f.filled sender answers type args).recipient = args.recipient := by
  cases type <;> rfl

@[simp] theorem filled_input : (f.filled sender answers type args).input = args.input := by
  cases type <;> rfl

@[simp] theorem filled_value : (f.filled sender answers type args).value = args.value := by
  cases type <;> rfl

@[simp] theorem filled_gasLimit :
    (f.filled sender answers type args).gasLimit = some (f.gasLimitFrom sender answers args) := by
  cases type <;> rfl

@[simp] theorem filled_gasPrice :
    (f.filled sender answers type args).gasPrice = args.gasPrice := by
  cases type <;> rfl

@[simp] theorem filled_accessList :
    (f.filled sender answers type args).accessList = args.accessList := by
  cases type <;> rfl

@[simp] theorem filled_maxPriorityFeePerGas :
    (f.filled sender answers type args).maxPriorityFeePerGas =
      if type = .dynamicFee then some (args.tipFrom answers) else args.maxPriorityFeePerGas := by
  cases type <;> rfl

@[simp] theorem filled_maxFeePerGas :
    (f.filled sender answers type args).maxFeePerGas =
      if type = .dynamicFee then some (args.feeCapFrom answers) else args.maxFeePerGas := by
  cases type <;> rfl

/-- Filling in sets no field that the type does not have. -/
theorem foreignField?_filled :
    (f.filled sender answers type args).foreignField? type = args.foreignField? type := by
  cases type <;> simp [TxArgs.foreignField?]

/-- **Filling in makes args complete.** -/
theorem filled_complete (hprice : type = .dynamicFee ∨ args.gasPrice.isSome)
    (hlist : type = .accessList → args.accessList.isSome)
    (hallowed : args.foreignField? type = none) :
    (f.filled sender answers type args).Complete type where
  chainId := by simp
  nonce := by simp
  gasLimit := by simp
  prices := by
    by_cases htype : type = .dynamicFee
    · simp [htype]
    · simpa [htype] using hprice
  accessList h := by simpa using hlist h
  allowed := by rw [foreignField?_filled, hallowed]

theorem typeFor_accessList (h : typeFor args = .accessList) : args.accessList.isSome := by
  simp only [typeFor, TxArgs.impliedType] at h
  grind

theorem withLiterals_accessList (sender : Address) (args : TxArgs) (h : type = .accessList) :
    (withLiterals sender type args).accessList.isSome := by
  subst h
  rfl

/-- The literals of a type have a place in it. -/
theorem foreignField?_withLiterals (sender : Address) (type : SupportedType) (args : TxArgs) :
    (withLiterals sender type args).foreignField? type = args.foreignField? type := by
  cases type with
  | dynamicFee => rfl
  | legacy | accessList => simp [withLiterals, TxArgs.foreignField?]

end Factory

/-! ## What complete args stand for -/

namespace TxArgs.Complete

variable {type : SupportedType} {args : TxArgs}

theorem impliedType_eq (h : args.Complete type) : args.impliedType = type := by
  have hprices := h.prices
  have hlist := h.accessList
  have hallowed := h.allowed
  cases type <;> simp only [TxArgs.foreignField?, TxArgs.impliedType] at * <;> grind

theorem typeFor_eq (h : args.Complete type) : Factory.typeFor args = type := by
  rw [Factory.typeFor, h.impliedType_eq]
  have hprices := h.prices
  have hallowed := h.allowed
  cases type <;> simp only [TxArgs.foreignField?] at * <;> grind

theorem withLiterals_eq (h : args.Complete type) (sender : Address) :
    Factory.withLiterals sender type args = args := by
  obtain ⟨chainId, nonce, recipient, input, value, gasLimit, gasPrice, feeCap, tip, list⟩ := args
  have hprices := h.prices
  have hlist := h.accessList
  cases type with
  | dynamicFee => rfl
  | accessList =>
    obtain ⟨price, rfl⟩ := Option.isSome_iff_exists.1 hprices
    obtain ⟨items, rfl⟩ := Option.isSome_iff_exists.1 (hlist rfl)
    rfl
  | legacy =>
    obtain ⟨price, rfl⟩ := Option.isSome_iff_exists.1 hprices
    rfl

/-- **Complete args are not touched again.** -/
theorem populateFor_eq (h : args.Complete type) (f : Factory) (sender : Address) :
    f.populateFor sender type args = pure args := by
  obtain ⟨chainId, nonce, recipient, input, value, gasLimit, gasPrice, feeCap, tip, list⟩ := args
  obtain ⟨chainId, rfl⟩ := Option.isSome_iff_exists.1 h.chainId
  obtain ⟨nonce, rfl⟩ := Option.isSome_iff_exists.1 h.nonce
  obtain ⟨gasLimit, rfl⟩ := Option.isSome_iff_exists.1 h.gasLimit
  have hprices := h.prices
  cases type with
  | dynamicFee =>
    obtain ⟨tip, rfl⟩ := Option.isSome_iff_exists.1 hprices.1
    obtain ⟨feeCap, rfl⟩ := Option.isSome_iff_exists.1 hprices.2
    rfl
  | legacy | accessList =>
    obtain ⟨price, rfl⟩ := Option.isSome_iff_exists.1 hprices
    rfl

theorem populate_eq (h : args.Complete type) (f : Factory) (sender : Address) :
    f.populate sender args = pure args := by
  rw [Factory.populate_eq, h.typeFor_eq, h.allowed]
  exact h.populateFor_eq f sender

theorem defaultArgs_eq (h : args.Complete type) (f : Factory) (sender : Address) :
    f.defaultArgs sender type.toTxType args = pure args := by
  rw [Factory.defaultArgs_eq, h.allowed, h.withLiterals_eq]
  exact h.populateFor_eq f sender

/-- **Complete args can be assembled**, to a transaction of their type. -/
theorem ofArgs_eq (h : args.Complete type) :
    ∃ tx, UnsignedTx.ofArgs args = .ok tx ∧ tx.supportedType = type := by
  have himplied := h.impliedType_eq
  obtain ⟨chainId, hchain⟩ := Option.isSome_iff_exists.1 h.chainId
  obtain ⟨nonce, hnonce⟩ := Option.isSome_iff_exists.1 h.nonce
  obtain ⟨gasLimit, hgas⟩ := Option.isSome_iff_exists.1 h.gasLimit
  have hprices := h.prices
  simp only [UnsignedTx.ofArgs, hchain, hnonce, hgas, himplied, UnsignedTx.required]
  cases type with
  | dynamicFee =>
    obtain ⟨tip, htip⟩ := Option.isSome_iff_exists.1 hprices.1
    obtain ⟨feeCap, hcap⟩ := Option.isSome_iff_exists.1 hprices.2
    rw [htip, hcap]
    exact ⟨_, rfl, rfl⟩
  | legacy | accessList =>
    obtain ⟨price, hprice⟩ := Option.isSome_iff_exists.1 hprices
    rw [hprice]
    exact ⟨_, rfl, rfl⟩

end TxArgs.Complete

/-! ## Population is idempotent -/

namespace Factory

variable {σ : Type} {f : Factory} {sender : Address} {args p : TxArgs} {chain : Chain σ} {s : σ}

/-- Whatever is filled in becomes complete. -/
theorem complete_of_populateFor {type : SupportedType}
    (hprice : type = .dynamicFee ∨ args.gasPrice.isSome)
    (hlist : type = .accessList → args.accessList.isSome)
    (hallowed : args.foreignField? type = none)
    (h : ((f.populateFor sender type args).hold chain s).result = .ok p) : p.Complete type := by
  obtain ⟨answers, -, hp⟩ :=
    (asks_populateFor f sender hprice).exists_gives (f.nodup_plan sender _ _) h
  cases hp
  exact filled_complete hprice hlist hallowed

theorem complete_of_populate (h : ((f.populate sender args).hold chain s).result = .ok p) :
    p.Complete (typeFor args) := by
  rw [populate_eq] at h
  cases hf : args.foreignField? (typeFor args) with
  | some field =>
    rw [hf] at h
    cases h
  | none =>
    rw [hf] at h
    exact complete_of_populateFor (typeFor_priced args) typeFor_accessList hf h

theorem complete_of_defaultArgs {type : SupportedType}
    (h : ((f.defaultArgs sender type.toTxType args).hold chain s).result = .ok p) :
    p.Complete type := by
  rw [defaultArgs_eq] at h
  cases hf : args.foreignField? type with
  | some field =>
    rw [hf] at h
    cases h
  | none =>
    rw [hf] at h
    refine complete_of_populateFor (withLiterals_priced sender type args) ?_ ?_ h
    · exact withLiterals_accessList sender args
    · rw [foreignField?_withLiterals, hf]

end Factory

/-- The args are a transaction of the type already.  It is the type that they imply and that they
are assembled to, and whoever has them filled in again gets them back: for any sender, by any
factory and on any chain, even one that fails every query, as none is asked. -/
structure TxArgs.Settled (type : SupportedType) (args : TxArgs) : Prop where
  impliedType : args.impliedType = type
  assembled : ∃ tx, UnsignedTx.ofArgs args = .ok tx ∧ tx.supportedType = type ∧
    ∀ (f : Factory) (signer : Signer) {σ : Type} (chain : Chain σ) (s : σ),
      (f.unsignedTx signer args).hold chain s = ⟨.ok tx, [], s⟩
  populated : ∀ (f : Factory) (sender : Address) {σ : Type} (chain : Chain σ) (s : σ),
    (f.populate sender args).hold chain s = ⟨.ok args, [], s⟩
  defaulted : ∀ (f : Factory) (sender : Address) {σ : Type} (chain : Chain σ) (s : σ),
    (f.defaultArgs sender type.toTxType args).hold chain s = ⟨.ok args, [], s⟩

theorem TxArgs.Complete.settled {type : SupportedType} {args : TxArgs} (h : args.Complete type) :
    args.Settled type := by
  obtain ⟨tx, htx, htype⟩ := h.ofArgs_eq
  refine ⟨h.impliedType_eq, ⟨tx, htx, htype, fun f signer σ chain s => ?_⟩,
    fun f sender σ chain s => ?_, fun f sender σ chain s => ?_⟩
  · rw [Factory.unsignedTx, h.populate_eq, pure_bind, htx]
    rfl
  · rw [h.populate_eq]
    rfl
  · rw [h.defaultArgs_eq]
    rfl

/-- **What population returns is settled**, whichever way in was taken: for the type asked for, or
for the type that the args imply in the end. -/
theorem Factory.settled_of_population {σ : Type} (f : Factory) (sender : Address)
    (type : SupportedType) (args p : TxArgs) (chain : Chain σ) (s : σ) :
    (((f.defaultArgs sender type.toTxType args).hold chain s).result = .ok p → p.Settled type) ∧
      (((f.populate sender args).hold chain s).result = .ok p → p.Settled p.impliedType) := by
  refine ⟨fun h => (complete_of_defaultArgs h).settled, fun h => ?_⟩
  have hp := complete_of_populate h
  rw [hp.impliedType_eq]
  exact hp.settled

/-- Args for an access list with nothing set, on a chain that answers everything with the same
number. -/
theorem Factory.settled_of_uniform :
    let sender := FixedBytes.ofNat 20 1
    ({ chainId := some 1, nonce := some 7, gasLimit := some 7, gasPrice := some defaultGasPrice,
       accessList := some (AccessList.placeholder sender) } : TxArgs).Settled .accessList := by
  intro sender
  exact (settled_of_population ⟨1, {}⟩ sender .accessList {} _ (.uniform 7) ()).1 rfl

end TxForge
