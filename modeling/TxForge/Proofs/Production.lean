import TxForge.Proofs.Population

/-!
# Producing transactions

The operations that end in a transaction fill in the args for the signer and then only compute: they
assemble, sign and check what came of it.  So all of them ask the same plan, and differ in what they
make of the answers.

* `Factory.assembled`, `Factory.sign` and `SignedTx.checked` are the three computations.
* `Factory.asks_unsignedTx`, `Factory.asks_uncheckedTx` and `Factory.asks_signedTx` put them behind
  the plan.
* Args that population refuses are refused by all of them, before anything is asked.
-/

set_option autoImplicit false

namespace TxForge

/-- The transaction, if it passes all checks. -/
def SignedTx.checked (tx : SignedTx) : Except FactoryError SignedTx :=
  (tx.validate.mapError .validation).map fun _ => tx

namespace Factory

variable (f : Factory) (signer : Signer)

/-- The transaction that the args make with the answers. -/
def assembled (sender : Address) (answers : Answers) (args : TxArgs) :
    Except FactoryError UnsignedTx :=
  (UnsignedTx.ofArgs (f.filled sender answers (typeFor args) args)).mapError .assembly

variable {args : TxArgs}

/-! ## Args that are filled in -/

theorem asks_unsignedTx (h : args.foreignField? (typeFor args) = none) :
    (f.unsignedTx signer args).Asks (f.plan signer.address (typeFor args) args) fun answers =>
      f.assembled signer.address answers args :=
  (asks_populate h).andThen (fun p => (UnsignedTx.ofArgs p).mapError .assembly) fun _ =>
    .nil fun _ _ => ⟨rfl, rfl⟩

theorem asks_uncheckedTx (h : args.foreignField? (typeFor args) = none) :
    (f.uncheckedTx signer args).Asks (f.plan signer.address (typeFor args) args) fun answers =>
      f.assembled signer.address answers args >>= sign signer := by
  refine (f.asks_unsignedTx signer h).andThen (sign signer) fun tx => .nil fun _ _ => ⟨rfl, ?_⟩
  rw [Operation.hold_ofExcept]
  cases sign signer tx <;> rfl

theorem asks_signedTx (h : args.foreignField? (typeFor args) = none) :
    (f.signedTx signer args).Asks (f.plan signer.address (typeFor args) args) fun answers =>
      (f.assembled signer.address answers args >>= sign signer) >>= SignedTx.checked := by
  refine (f.asks_uncheckedTx signer h).andThen SignedTx.checked fun tx => .nil fun chain s => ?_
  rw [SignedTx.checked]
  cases hv : tx.validate with
  | ok u =>
    rw [Operation.hold_bind_of_ok (a := u) chain rfl]
    exact ⟨rfl, rfl⟩
  | error e =>
    rw [Operation.hold_bind_of_error (e := .validation e) chain rfl]
    exact ⟨rfl, rfl⟩

/-! ## What lies behind a transaction -/

section Origins

variable {f : Factory} {signer : Signer} {args : TxArgs} {σ : Type} {chain : Chain σ} {s : σ}

/-- A signed transaction was assembled before, by the same conversation. -/
theorem exists_of_uncheckedTx {tx : SignedTx}
    (h : ((f.uncheckedTx signer args).hold chain s).result = .ok tx) :
    ∃ bare, ((f.unsignedTx signer args).hold chain s).result = .ok bare ∧
      bare.sign signer = .ok tx := by
  obtain ⟨bare, hbare, htx⟩ := Operation.exists_of_hold_bind_eq_ok h
  refine ⟨bare, hbare, ?_⟩
  rw [Operation.hold_ofExcept, sign] at htx
  cases hs : bare.sign signer with
  | ok signed =>
    rw [hs] at htx
    cases htx
    rfl
  | error e =>
    rw [hs] at htx
    cases htx

/-- A transaction that is handed out was signed before, and passes the checks. -/
theorem unchecked_of_signedTx {tx : SignedTx}
    (h : ((f.signedTx signer args).hold chain s).result = .ok tx) :
    ((f.uncheckedTx signer args).hold chain s).result = .ok tx ∧ tx.validate = .ok () := by
  obtain ⟨tx', htx', hrest⟩ := Operation.exists_of_hold_bind_eq_ok h
  obtain ⟨u, hu, hreport⟩ := Operation.exists_of_hold_bind_eq_ok hrest
  obtain ⟨-, -, htx⟩ := Operation.exists_of_hold_bind_eq_ok hreport
  cases htx
  refine ⟨htx', ?_⟩
  rw [Operation.hold_ofExcept] at hu
  cases hv : tx.validate with
  | ok u => rfl
  | error e =>
    rw [hv] at hu
    cases hu

end Origins

/-! ## Args that are refused -/

theorem unsignedTx_of_refused {field : TxArgs.Field}
    (h : args.foreignField? (typeFor args) = some field) :
    f.unsignedTx signer args = throw (.fieldNotAllowed (typeFor args) field) := by
  rw [unsignedTx, populate_eq, h]
  rfl

theorem uncheckedTx_of_refused {field : TxArgs.Field}
    (h : args.foreignField? (typeFor args) = some field) :
    f.uncheckedTx signer args = throw (.fieldNotAllowed (typeFor args) field) := by
  rw [uncheckedTx, f.unsignedTx_of_refused signer h]
  rfl

theorem signedTx_of_refused {field : TxArgs.Field}
    (h : args.foreignField? (typeFor args) = some field) :
    f.signedTx signer args = throw (.fieldNotAllowed (typeFor args) field) := by
  rw [signedTx, f.uncheckedTx_of_refused signer h]
  rfl

end Factory
end TxForge
