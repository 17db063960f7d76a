import TxForge.Proofs.Complete
import TxForge.Proofs.QueryOrder

/-!
# The two ways to fill in args

A caller who wants args filled in either names the type or leaves it to the fields that are set.
The two ways choose between the fee models by different rules, and defaulting for a type has a few
values of its own.  This file says that nothing else sets them apart: defaulting is population of
args that were completed first.

* `TxArgs.FirstForeign` — the field that a refusal names.
* `TxArgs.completed` — the args with the price and the access list that a type brings along.
* `Factory.typeFor_completed` — the type of completed args shows from their fields.  This is what
  makes the two ways meet: the type that population guesses is the one that was asked for.
* `Factory.defaultArgs_eq_populate` — the two are one operation from there on.
* `Factory.refines_populate` — the account of defaulting for every type and on every chain.
-/

set_option autoImplicit false

namespace TxForge

/-! ## The field that is refused -/

/-- The field is the first that is set although a transaction of the type has no place for it.  The
two prices of a dynamic fee come before the access list. -/
inductive TxArgs.FirstForeign (args : TxArgs) : SupportedType → TxArgs.Field → Prop where
  | gasPrice (h : args.gasPrice ≠ none) : FirstForeign args .dynamicFee .gasPrice
  | maxFeePerGas {type : SupportedType} (htype : type ≠ .dynamicFee)
      (h : args.maxFeePerGas ≠ none) : FirstForeign args type .maxFeePerGas
  | maxPriorityFeePerGas {type : SupportedType} (htype : type ≠ .dynamicFee)
      (hcap : args.maxFeePerGas = none) (h : args.maxPriorityFeePerGas ≠ none) :
      FirstForeign args type .maxPriorityFeePerGas
  | accessList (hcap : args.maxFeePerGas = none) (htip : args.maxPriorityFeePerGas = none)
      (h : args.accessList ≠ none) : FirstForeign args .legacy .accessList

namespace TxArgs

variable {type : SupportedType} {args : TxArgs}

/-- **The check finds the first foreign field**, and none only if there is none. -/
theorem foreignField?_eq_some_iff {field : Field} :
    args.foreignField? type = some field ↔ args.FirstForeign type field := by
  constructor
  · intro h
    rw [foreignField?.eq_def] at h
    split at h
    · split at h
      · rename_i hprice
        cases h
        exact .gasPrice (Option.isSome_iff_ne_none.1 hprice)
      · cases h
    rename_i htype
    -- each test that is passed leaves the field before it unset
    simp only [Option.isSome_iff_ne_none] at h
    split at h
    · cases h
      exact .maxFeePerGas htype ‹_›
    rename_i hcap
    split at h
    · cases h
      exact .maxPriorityFeePerGas htype (not_not.1 hcap) ‹_›
    rename_i htip
    split at h
    · rename_i hlist
      obtain ⟨rfl, hlist⟩ := hlist
      cases h
      exact .accessList (not_not.1 hcap) (not_not.1 htip) hlist
    · cases h
  · rintro (h | ⟨htype, h⟩ | ⟨htype, hcap, h⟩ | ⟨hcap, htip, h⟩)
    · simp [foreignField?, Option.isSome_iff_ne_none, h]
    · cases type <;> simp_all [foreignField?, Option.isSome_iff_ne_none]
    · cases type <;> simp_all [foreignField?, Option.isSome_iff_ne_none]
    · simp [foreignField?, Option.isSome_iff_ne_none, hcap, htip, h]

theorem foreignField?_eq_none_iff :
    args.foreignField? type = none ↔ ∀ field, ¬ args.FirstForeign type field := by
  rw [Option.eq_none_iff_forall_ne_some]
  simp only [ne_eq, foreignField?_eq_some_iff]

/-- A type with a single price leaves no room for a dynamic fee. -/
theorem dynamicFee_unset (h : args.foreignField? type = none) (htype : type ≠ .dynamicFee) :
    args.maxFeePerGas = none ∧ args.maxPriorityFeePerGas = none := by
  have hforeign := foreignField?_eq_none_iff.1 h
  have hcap : args.maxFeePerGas = none :=
    by_contra fun hset => hforeign _ (.maxFeePerGas htype hset)
  exact ⟨hcap, by_contra fun hset => hforeign _ (.maxPriorityFeePerGas htype hcap hset)⟩

end TxArgs

/-! ## Completed args -/

/-- The args with the two values that no chain has to be asked for: the price of a type that has a
single one, and the list of a type that has one.  What is set stays. -/
def TxArgs.completed (sender : Address) (type : SupportedType) (args : TxArgs) : TxArgs :=
  { args with
    gasPrice := if type = .dynamicFee then args.gasPrice
      else some (args.gasPrice.getD 1000000000)
    accessList := if type = .accessList then
        some (args.accessList.getD [⟨sender, [FixedBytes.ofNat 32 0]⟩])
      else args.accessList }

namespace Factory

variable {type : SupportedType} {args : TxArgs}

theorem withLiterals_eq_completed (sender : Address) (type : SupportedType) (args : TxArgs) :
    withLiterals sender type args = args.completed sender type := by
  cases type <;> rfl

theorem foreignField?_completed (sender : Address) (type : SupportedType) (args : TxArgs) :
    (args.completed sender type).foreignField? type = args.foreignField? type := by
  rw [← withLiterals_eq_completed, foreignField?_withLiterals]

/-- **The fields of completed args give away the type**, if none of them was foreign to it. -/
theorem typeFor_completed (sender : Address) (h : args.foreignField? type = none) :
    typeFor (args.completed sender type) = type := by
  cases type with
  | dynamicFee =>
    have hprice : args.gasPrice = none := by simpa [TxArgs.foreignField?] using h
    simp [typeFor, TxArgs.completed, hprice]
  | legacy =>
    obtain ⟨hcap, htip⟩ := TxArgs.dynamicFee_unset h (by decide)
    have hlist : args.accessList = none :=
      by_contra fun hset => TxArgs.foreignField?_eq_none_iff.1 h _ (.accessList hcap htip hset)
    simp [typeFor, TxArgs.impliedType, TxArgs.completed, hcap, htip, hlist]
  | accessList =>
    obtain ⟨hcap, htip⟩ := TxArgs.dynamicFee_unset h (by decide)
    simp [typeFor, TxArgs.impliedType, TxArgs.completed, hcap, htip]

/-! ## One operation -/

/-- **Defaulting for a type is population of completed args**, unless the args are refused. -/
theorem defaultArgs_eq_populate (f : Factory) (sender : Address)
    (h : args.foreignField? type = none) :
    f.defaultArgs sender type.toTxType args = f.populate sender (args.completed sender type) := by
  rw [defaultArgs_eq, populate_eq, typeFor_completed sender h, foreignField?_completed, h,
    withLiterals_eq_completed]

/-! ## Defaulting for every type -/

/-- What becomes of args that are filled in for a type.  Every case gives the whole conversation:
its result, all that was asked and reported, and the chain afterwards. -/
structure RefinesPopulate {σ : Type} (f : Factory) (sender : Address) (type : TxType)
    (args : TxArgs) (chain : Chain σ) (s : σ) : Prop where
  /-- The fields do not matter then, foreign or not. -/
  unsupported : type = .blob ∨ type = .setCode →
    (f.defaultArgs sender type args).hold chain s =
      ⟨.error (.unsupportedType (.known type)), [.reported .unsupportedType], s⟩
  refused : ∀ supported field, type = SupportedType.toTxType supported →
    args.FirstForeign supported field →
      (f.defaultArgs sender type args).hold chain s =
        ⟨.error (.fieldNotAllowed supported field), [], s⟩
  populated : ∀ supported, type = SupportedType.toTxType supported →
    (∀ field, ¬ args.FirstForeign supported field) →
      (f.defaultArgs sender type args).hold chain s =
        (f.populate sender (args.completed sender supported)).hold chain s
  /-- The price that filling in takes for granted is there. -/
  assembly : ∀ e, ((f.defaultArgs sender type args).hold chain s).result = .error e →
    e.stage ≠ .assembly

/-- **Defaulting refines population.**  It refuses the types that have no defaults and the fields
that have no place in the type, both before anything is asked.  In every other case it is population
of the completed args. -/
theorem refines_populate {σ : Type} (f : Factory) (sender : Address) (type : TxType) (args : TxArgs)
    (chain : Chain σ) (s : σ) : f.RefinesPopulate sender type args chain s where
  unsupported h := by
    rcases h with rfl | rfl <;> exact f.hold_defaultArgs_of_unsupported sender args chain s rfl
  refused := by
    rintro supported field rfl h
    rw [defaultArgs_eq, TxArgs.foreignField?_eq_some_iff.2 h, Operation.hold_throw]
  populated := by
    rintro supported rfl h
    rw [f.defaultArgs_eq_populate sender (TxArgs.foreignField?_eq_none_iff.2 h)]
  assembly e he := by
    cases htype : SupportedType.ofTxType type with
    | error reason =>
      rw [f.hold_defaultArgs_of_unsupported sender args chain s htype] at he
      cases he
      simp [FactoryError.stage]
    | ok supported =>
      obtain rfl := SupportedType.eq_toTxType_of_ofTxType htype
      cases hforeign : args.foreignField? supported with
      | some field =>
        rw [defaultArgs_eq, hforeign, Operation.hold_throw] at he
        cases he
        simp [FactoryError.stage]
      | none =>
        rw [(asks_defaultArgs hforeign).stage_of_error (f.nodup_plan sender _ _) he]
        simp

/-- Args with a tip and a list, asked to be a blob, a legacy and an access-list transaction in turn,
and then the same without the tip. -/
theorem refines_populate_of_tip_and_list :
    let f : Factory := ⟨1, {}⟩
    let sender := FixedBytes.ofNat 20 1
    let args : TxArgs := { maxPriorityFeePerGas := some 2, accessList := some [] }
    ((f.defaultArgs sender .blob args).hold (.uniform 7) ()).result =
        .error (.unsupportedType (.known .blob)) ∧
      ((f.defaultArgs sender .legacy args).hold (.uniform 7) ()).result =
        .error (.fieldNotAllowed .legacy .maxPriorityFeePerGas) ∧
      ((f.defaultArgs sender .legacy { args with maxPriorityFeePerGas := none }).hold
        (.uniform 7) ()).result = .error (.fieldNotAllowed .legacy .accessList) ∧
      (f.defaultArgs sender .accessList { args with maxPriorityFeePerGas := none }).hold
          (.uniform 7) () =
        (f.populate sender { gasPrice := some 1000000000, accessList := some [] }).hold
          (.uniform 7) () := by
  intro f sender args
  have h := fun type args => f.refines_populate sender type args (.uniform 7) ()
  refine ⟨by rw [(h .blob args).unsupported (.inl rfl)], ?_, ?_, ?_⟩
  · rw [(h .legacy args).refused .legacy _ rfl (.maxPriorityFeePerGas nofun rfl (by simp [args]))]
  · rw [(h .legacy _).refused .legacy _ rfl (.accessList rfl rfl (by simp [args]))]
  · exact (h .accessList _).populated .accessList rfl
      (TxArgs.foreignField?_eq_none_iff.1 rfl)

end Factory
end TxForge
