import TxForge.Unsigned

/-!
# What assembly asks for and what it keeps

Args become a transaction field by field, and which fields are looked at depends on the type that
the args imply.  The three types put the same fields into records of different shape, so it does not
go without saying that a transaction remembers the args it was made from.

* `TxArgs.Makes` — the ways to make a transaction, one for each type.  It is the graph of assembly
  where assembly succeeds (`UnsignedTx.ofArgs_eq_ok_iff`).
* `TxArgs.AlikeFor` — args that only differ in what their type has no place for.  A dynamic fee
  leaves two such things: a gas price, and whether an empty access list was given at all.
* `TxArgs.FirstMissing` — the field that a failure names (`UnsignedTx.ofArgs_eq_error_iff`).
* `UnsignedTx.faithful_of_ofArgs` — a transaction tells the args apart up to `AlikeFor`, and every
  failure is for want of a field.
-/

set_option autoImplicit false

namespace TxForge
namespace TxArgs

/-! ## Fields that have to be set -/

/-- The prices that a transaction of the type pays. -/
def Field.pricesOf : SupportedType → List Field
  | .legacy | .accessList => [.gasPrice]
  | .dynamicFee => [.maxFeePerGas, .maxPriorityFeePerGas]

/-- The fields that a transaction of the type needs, in the order in which they are asked for. -/
def Field.neededBy (type : SupportedType) : List Field :=
  .chainId :: .nonce :: .gasLimit :: pricesOf type

/-- The field has a value.  Input and value always have one. -/
def isSet (args : TxArgs) : Field → Bool
  | .chainId => args.chainId.isSome
  | .nonce => args.nonce.isSome
  | .recipient => args.recipient.isSome
  | .input | .value => true
  | .gasLimit => args.gasLimit.isSome
  | .gasPrice => args.gasPrice.isSome
  | .maxFeePerGas => args.maxFeePerGas.isSome
  | .maxPriorityFeePerGas => args.maxPriorityFeePerGas.isSome
  | .accessList => args.accessList.isSome

/-- The type needs the field, which is not set, and all that it needs before it is. -/
def FirstMissing (args : TxArgs) (type : SupportedType) (field : Field) : Prop :=
  ∃ before after, Field.neededBy type = before ++ field :: after ∧
    (∀ earlier ∈ before, args.isSet earlier = true) ∧ args.isSet field = false

/-! ## Transactions and the args they are made from -/

/-- The args make the transaction.  A type with one price is implied by args without a dynamic fee,
and the access list decides between the two that there are. -/
inductive Makes : TxArgs → UnsignedTx → Prop
  | legacy (chainId : ChainId) (nonce : Nonce) (gasLimit : Gas) (gasPrice : Price)
    (recipient : Option Address) (value : Wei) (input : Bytes) :
    Makes ⟨some chainId, some nonce, recipient, input, value, some gasLimit, some gasPrice, none,
      none, none⟩
      (.legacy ⟨some chainId, nonce, gasPrice, gasLimit, recipient, value, input⟩)
  | accessList (chainId : ChainId) (nonce : Nonce) (gasLimit : Gas) (gasPrice : Price)
    (recipient : Option Address) (value : Wei) (input : Bytes) (list : AccessList) :
    Makes ⟨some chainId, some nonce, recipient, input, value, some gasLimit, some gasPrice, none,
      none, some list⟩
      (.accessList ⟨chainId, nonce, gasPrice, gasLimit, recipient, value, input, list⟩)
  | dynamicFee (chainId : ChainId) (nonce : Nonce) (gasLimit : Gas) (feeCap tip : Price)
    (recipient : Option Address) (value : Wei) (input : Bytes) (gasPrice : Option Price)
    (list : Option AccessList) :
    Makes ⟨some chainId, some nonce, recipient, input, value, some gasLimit, gasPrice, some feeCap,
      some tip, list⟩
      (.dynamicFee ⟨chainId, nonce, tip, feeCap, gasLimit, recipient, value, input, list.getD []⟩)

/-- The args agree on all that a transaction of the type tells of them. -/
structure AlikeFor (type : SupportedType) (a b : TxArgs) : Prop where
  chainId : a.chainId = b.chainId
  nonce : a.nonce = b.nonce
  recipient : a.recipient = b.recipient
  input : a.input = b.input
  value : a.value = b.value
  gasLimit : a.gasLimit = b.gasLimit
  gasPrice : type ≠ .dynamicFee → a.gasPrice = b.gasPrice
  maxFeePerGas : a.maxFeePerGas = b.maxFeePerGas
  maxPriorityFeePerGas : a.maxPriorityFeePerGas = b.maxPriorityFeePerGas
  /-- A list that is not given and one that is empty are the same to a dynamic fee. -/
  accessList : a.accessList = b.accessList ∨ type = .dynamicFee ∧
    (a.accessList = none ∧ b.accessList = some [] ∨ a.accessList = some [] ∧ b.accessList = none)

variable {a b : TxArgs} {tx : UnsignedTx}

theorem getD_eq_getD_iff {α : Type} {l m : Option (List α)} :
    l.getD [] = m.getD [] ↔
      l = m ∨ l = none ∧ m = some [] ∨ l = some [] ∧ m = none := by
  cases l <;> cases m <;> simp [eq_comm]

/-- **What makes the same transaction is alike for its type**, and conversely. -/
theorem Makes.makes_iff (h : a.Makes tx) : b.Makes tx ↔ AlikeFor tx.supportedType a b := by
  constructor
  · intro hb
    cases h with
    | legacy | accessList =>
      cases hb
      exact ⟨rfl, rfl, rfl, rfl, rfl, rfl, fun _ => rfl, rfl, rfl, .inl rfl⟩
    | dynamicFee chainId nonce gasLimit feeCap tip recipient value input gasPrice list =>
      -- of the two lists it is only known that they come to the same
      generalize htx : UnsignedTx.dynamicFee _ = tx at hb
      cases hb with
      | legacy | accessList => cases htx
      | dynamicFee =>
        simp only [UnsignedTx.dynamicFee.injEq, DynamicFeeTx.mk.injEq] at htx
        obtain ⟨rfl, rfl, rfl, rfl, rfl, rfl, rfl, rfl, hlist⟩ := htx
        refine ⟨rfl, rfl, rfl, rfl, rfl, rfl, fun hne => absurd rfl hne, rfl, rfl, ?_⟩
        exact (getD_eq_getD_iff.1 hlist).imp_right fun hempty => ⟨rfl, hempty⟩
  · rintro ⟨hchain, hnonce, hrecipient, hinput, hvalue, hgas, hprice, hcap, htip, hlist⟩
    obtain ⟨chainId, nonce, recipient, input, value, gasLimit, gasPrice, feeCap, tip, list⟩ := b
    cases h with
    | legacy =>
      obtain rfl := hprice nofun
      obtain rfl := hlist.resolve_right nofun
      subst hchain hnonce hrecipient hinput hvalue hgas hcap htip
      exact .legacy ..
    | accessList =>
      obtain rfl := hprice nofun
      obtain rfl := hlist.resolve_right nofun
      subst hchain hnonce hrecipient hinput hvalue hgas hcap htip
      exact .accessList ..
    | dynamicFee =>
      subst hchain hnonce hrecipient hinput hvalue hgas hcap htip
      rw [getD_eq_getD_iff.2 (hlist.imp_right And.right)]
      exact .dynamicFee ..

/-! ## The first field that is missing -/

theorem firstMissing_iff {type : SupportedType} {field : Field} :
    a.FirstMissing type field ↔
      (Field.neededBy type).find? (fun field => !a.isSet field) = some field := by
  rw [List.find?_eq_some_iff_append]
  simp only [FirstMissing, Bool.not_eq_true', Bool.not_not]
  exact ⟨fun ⟨before, after, h, hbefore, hfield⟩ => ⟨hfield, before, after, h, hbefore⟩,
    fun ⟨hfield, before, after, h, hbefore⟩ => ⟨before, after, h, hbefore, hfield⟩⟩

/-- At most one field is the first. -/
theorem FirstMissing.unique {type : SupportedType} {field field' : Field}
    (h : a.FirstMissing type field) (h' : a.FirstMissing type field') : field = field' :=
  Option.some.inj ((firstMissing_iff.1 h).symm.trans (firstMissing_iff.1 h'))

theorem exists_firstMissing_iff {type : SupportedType} :
    (∃ field, a.FirstMissing type field) ↔
      ∃ field ∈ Field.neededBy type, a.isSet field = false := by
  simp only [firstMissing_iff, ← Option.isSome_iff_exists, List.find?_isSome, Bool.not_eq_true']

end TxArgs

/-! ## Assembly -/

namespace UnsignedTx

variable {args : TxArgs} {tx : UnsignedTx} {e : IncompleteArgs}

theorem ofArgs_of_makes (h : args.Makes tx) : ofArgs args = .ok tx := by
  cases h <;> rfl

/-- Assembly goes through the fields in their order, and either it finds one missing or the args
make a transaction. -/
theorem makes_or_missing (args : TxArgs) :
    (∃ tx, args.Makes tx) ∨
      ∃ field, args.FirstMissing args.impliedType field ∧ ofArgs args = .error ⟨field⟩ := by
  obtain ⟨chainId, nonce, recipient, input, value, gasLimit, gasPrice, feeCap, tip, list⟩ := args
  cases chainId with
  | none => exact .inr ⟨.chainId, ⟨[], _, rfl, nofun, rfl⟩, rfl⟩
  | some chainId =>
  cases nonce with
  | none => exact .inr ⟨.nonce, ⟨[.chainId], _, rfl, by simp [TxArgs.isSet], rfl⟩, rfl⟩
  | some nonce =>
  cases gasLimit with
  | none => exact .inr ⟨.gasLimit, ⟨[.chainId, .nonce], _, rfl, by simp [TxArgs.isSet], rfl⟩, rfl⟩
  | some gasLimit =>
  -- either price of a dynamic fee implies the type, which then needs the other one as well
  cases feeCap with
  | some feeCap =>
    cases tip with
    | some tip => exact .inl ⟨_, .dynamicFee ..⟩
    | none =>
      exact .inr ⟨.maxPriorityFeePerGas, ⟨[.chainId, .nonce, .gasLimit, .maxFeePerGas], [], rfl,
        by simp [TxArgs.isSet], rfl⟩, rfl⟩
  | none =>
  cases tip with
  | some tip =>
    exact .inr ⟨.maxFeePerGas, ⟨[.chainId, .nonce, .gasLimit], [.maxPriorityFeePerGas], rfl,
      by simp [TxArgs.isSet], rfl⟩, rfl⟩
  | none =>
  cases gasPrice with
  | some gasPrice =>
    cases list with
    | none => exact .inl ⟨_, .legacy ..⟩
    | some list => exact .inl ⟨_, .accessList ..⟩
  | none =>
    cases list with
    | none | some list =>
      exact .inr ⟨.gasPrice, ⟨[.chainId, .nonce, .gasLimit], [], rfl, by simp [TxArgs.isSet], rfl⟩,
        rfl⟩

/-- **Assembly comes to the transaction that the args make**, and to none otherwise. -/
theorem ofArgs_eq_ok_iff : ofArgs args = .ok tx ↔ args.Makes tx := by
  refine ⟨fun h => ?_, ofArgs_of_makes⟩
  rcases makes_or_missing args with ⟨tx', hmakes⟩ | ⟨field, -, herror⟩
  · cases (ofArgs_of_makes hmakes).symm.trans h
    exact hmakes
  · cases herror.symm.trans h

/-- Args that make a transaction have all that its type needs. -/
theorem not_firstMissing_of_makes (h : args.Makes tx) (field : TxArgs.Field) :
    ¬ args.FirstMissing args.impliedType field := by
  intro hmissing
  obtain ⟨needed, hneeded, hunset⟩ := TxArgs.exists_firstMissing_iff.1 ⟨field, hmissing⟩
  have hall : ∀ needed ∈ TxArgs.Field.neededBy args.impliedType, args.isSet needed = true := by
    cases h <;>
      simp [TxArgs.Field.neededBy, TxArgs.Field.pricesOf, TxArgs.impliedType, TxArgs.isSet]
  rw [hall needed hneeded] at hunset
  cases hunset

/-- **Assembly fails for want of a field**, and names the first. -/
theorem ofArgs_eq_error_iff :
    ofArgs args = .error e ↔ args.FirstMissing args.impliedType e.missing := by
  rcases makes_or_missing args with ⟨tx, hmakes⟩ | ⟨field, hmissing, herror⟩
  · rw [ofArgs_of_makes hmakes]
    exact ⟨nofun, fun h => absurd h (not_firstMissing_of_makes hmakes _)⟩
  · rw [herror]
    constructor
    · rintro ⟨⟩
      exact hmissing
    · intro h
      rw [hmissing.unique h]

/-- **Assembly loses nothing.**  The args that a transaction is made from are known from it but for
the two things that its type has no place for, and nothing but a missing field keeps args from being
assembled. -/
theorem faithful_of_ofArgs (a : TxArgs) :
    (∀ tx, ofArgs a = .ok tx → ∀ b, ofArgs b = .ok tx ↔ TxArgs.AlikeFor tx.supportedType a b) ∧
      (∀ e, ofArgs a = .error e ↔ a.FirstMissing a.impliedType e.missing) ∧
      ((∃ e, ofArgs a = .error e) ↔
        ∃ field ∈ TxArgs.Field.neededBy a.impliedType, a.isSet field = false) := by
  refine ⟨fun tx h b => ?_, fun e => ofArgs_eq_error_iff, ?_⟩
  · rw [ofArgs_eq_ok_iff]
    exact (ofArgs_eq_ok_iff.1 h).makes_iff
  · rw [← TxArgs.exists_firstMissing_iff]
    constructor
    · rintro ⟨e, he⟩
      exact ⟨e.missing, ofArgs_eq_error_iff.1 he⟩
    · rintro ⟨field, hfield⟩
      exact ⟨⟨field⟩, ofArgs_eq_error_iff.2 hfield⟩

/-- A dynamic fee forgets a gas price, and that an empty list was given; a tip alone lacks its
cap. -/
theorem faithful_of_dynamic_fee :
    let bare : TxArgs :=
      { chainId := some 1, nonce := some 2, gasLimit := some 21000, maxFeePerGas := some 5,
        maxPriorityFeePerGas := some 3 }
    let laden : TxArgs := { bare with gasPrice := some 7, accessList := some [] }
    (∃ tx, ofArgs bare = .ok tx ∧ ofArgs laden = .ok tx) ∧
      ofArgs { bare with maxFeePerGas := none } = .error ⟨.maxFeePerGas⟩ := by
  intro bare laden
  refine ⟨⟨_, rfl, ((faithful_of_ofArgs bare).1 _ rfl laden).2 ?_⟩, ?_⟩
  · exact ⟨rfl, rfl, rfl, rfl, rfl, rfl, fun h => absurd rfl h, rfl, rfl,
      .inr ⟨rfl, .inl ⟨rfl, rfl⟩⟩⟩
  · exact ((faithful_of_ofArgs _).2.1 _).2
      ⟨[.chainId, .nonce, .gasLimit], [.maxPriorityFeePerGas], rfl, by decide, rfl⟩

end UnsignedTx
end TxForge
