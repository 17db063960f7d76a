import TxForge.Proofs.Provenance
import TxForge.Proofs.Validation

/-!
# When a factory hands out a signed transaction

Args are looked through for fields out of place, filled in, assembled, signed and checked.  This is
the whole account of what can go wrong on the way: four conditions, of which the first that does not
hold decides on the error.

1. The args do not mix the two ways to pay.
2. The chain answers all that it is asked.
3. The signer admits the chain of the transaction.
4. Gas limit, tip and cost of the transaction are in order.

`Factory.Accepts` is that all of them hold, and `Factory.Refuses` is the error of the first that
does not.  Assembly has no place in the list, since args that were filled in are complete.  Neither
have two of the checks of validation: chain and sender are right because the transaction has just
been signed.  The one thing that is asked of signatures is that a fresh one gives its key away.
-/

set_option autoImplicit false

namespace TxForge
namespace Factory

variable {σ : Type} (f : Factory) (signer : Signer) (args : TxArgs) (chain : Chain σ) (s : σ)

/-- All conditions hold. -/
structure Accepts : Prop where
  fees : ¬ args.MixesFees
  answered : ∃ answers, chain.Gives answers (f.plan signer.address (typeFor args) args) s ∧
    signer.Admits (args.chainId.getD f.chainId) ∧
      (f.txFrom signer.address answers args).envelope.Payable

/-- The error of the first condition that does not hold. -/
inductive Refuses : FactoryError → Prop
  | fees (h : args.MixesFees) : Refuses (.fieldNotAllowed .dynamicFee .gasPrice)
  | query {q : Query} {failure : Failure} (hfees : ¬ args.MixesFees)
    (h : chain.firstFailure? (f.plan signer.address (typeFor args) args) s = some (q, failure)) :
    Refuses (.unanswered q failure)
  | signer {answers : Answers} {own : ChainId} (hfees : ¬ args.MixesFees)
    (hg : chain.Gives answers (f.plan signer.address (typeFor args) args) s)
    (hown : signer.chainId = some own) (h : own ≠ args.chainId.getD f.chainId) :
    Refuses (.signing (.chainMismatch (args.chainId.getD f.chainId) own))
  | numbers {answers : Answers} {e : ValidationError} (hfees : ¬ args.MixesFees)
    (hg : chain.Gives answers (f.plan signer.address (typeFor args) args) s)
    (hs : signer.Admits (args.chainId.getD f.chainId))
    (h : (f.txFrom signer.address answers args).envelope.Objection e) :
    Refuses (.validation e)

/-- One or the other. -/
theorem accepts_or_refuses :
    f.Accepts signer args chain s ∨ ∃ e, f.Refuses signer args chain s e := by
  by_cases hfees : args.MixesFees
  · exact .inr ⟨_, .fees hfees⟩
  cases hf : chain.firstFailure? (f.plan signer.address (typeFor args) args) s with
  | some stop => exact .inr ⟨_, .query hfees hf⟩
  | none =>
    obtain ⟨answers, hg⟩ := Chain.exists_gives_of_firstFailure?_eq_none (f.nodup_plan _ _ _) hf
    by_cases hs : signer.Admits (args.chainId.getD f.chainId)
    · rcases (f.txFrom signer.address answers args).envelope.payable_or_objection with h | ⟨e, h⟩
      · exact .inl ⟨hfees, answers, hg, hs, h⟩
      · exact .inr ⟨_, .numbers hfees hg hs h⟩
    · obtain ⟨own, hown, hne⟩ := Signer.not_admits_iff.1 hs
      exact .inr ⟨_, .signer hfees hg hown hne⟩

variable {f signer args chain s}

/-! ## A chain that answers -/

theorem unsignedTx_of_gives {answers : Answers} (hfees : ¬ args.MixesFees)
    (hg : chain.Gives answers (f.plan signer.address (typeFor args) args) s) :
    ((f.unsignedTx signer args).hold chain s).result =
      .ok (f.txFrom signer.address answers args) := by
  have hallowed := (foreignField?_typeFor args).2 hfees
  rw [(f.asks_unsignedTx signer hallowed).answered chain s hg, assembled_eq _ _ _ hfees]

/-- With the answers only signing and checking are left. -/
theorem signedTx_of_gives {answers : Answers} (hfees : ¬ args.MixesFees)
    (hg : chain.Gives answers (f.plan signer.address (typeFor args) args) s) :
    ((f.signedTx signer args).hold chain s).result =
      (sign signer (f.txFrom signer.address answers args) >>= SignedTx.checked) := by
  have hallowed := (foreignField?_typeFor args).2 hfees
  rw [(f.asks_signedTx signer hallowed).answered chain s hg, assembled_eq _ _ _ hfees]
  rfl

/-- The chain of the transaction is the one that the caller set, or the factory's. -/
theorem chainId_txFrom (f : Factory) (signer : Signer) (answers : Answers)
    (hfees : ¬ args.MixesFees) :
    (f.txFrom signer.address answers args).envelope.chainId =
      some (args.chainId.getD f.chainId) :=
  (f.sourced_txFrom signer.address answers hfees).chainId

/-- A signer that admits the chain signs, and what is left is to check what it signed. -/
theorem signedTx_of_admits {answers : Answers} (hfees : ¬ args.MixesFees)
    (hg : chain.Gives answers (f.plan signer.address (typeFor args) args) s)
    (hs : signer.Admits (args.chainId.getD f.chainId)) :
    ∃ tx : SignedTx, tx.envelope = (f.txFrom signer.address answers args).envelope ∧
      tx.envelope.chainId = some tx.chainId ∧
      (signer.key.Recovers tx.envelope.signingHash → tx.recover? = some tx.sender) ∧
      ((f.signedTx signer args).hold chain s).result = tx.checked := by
  obtain ⟨tx, hsign, henvelope, hchain, hrecover⟩ :=
    UnsignedTx.exists_sign_eq_ok (f.chainId_txFrom signer answers hfees) hs
  refine ⟨tx, henvelope, hchain, hrecover, ?_⟩
  rw [signedTx_of_gives hfees hg, sign, hsign]
  rfl

/-! ## The two verdicts -/

theorem signedTx_of_accepts (h : f.Accepts signer args chain s)
    (hsig : ∀ tx, ((f.unsignedTx signer args).hold chain s).result = .ok tx →
      signer.key.Recovers tx.envelope.signingHash) :
    ∃ tx, ((f.signedTx signer args).hold chain s).result = .ok tx := by
  obtain ⟨hfees, answers, hg, hs, hpayable⟩ := h
  obtain ⟨tx, henvelope, hchain, hrecover, hresult⟩ := signedTx_of_admits hfees hg hs
  have hsigned := hsig _ (unsignedTx_of_gives hfees hg)
  rw [← henvelope] at hpayable hsigned
  have hvalid : tx.validate = .ok () := by
    rw [SignedTx.validate_of_payable hpayable, if_pos hchain,
      SignedTx.checkSender_eq_ok (hrecover hsigned)]
  refine ⟨tx, ?_⟩
  rw [hresult, SignedTx.checked, hvalid]
  rfl

theorem signedTx_of_refuses {e : FactoryError} (h : f.Refuses signer args chain s e) :
    ((f.signedTx signer args).hold chain s).result = .error e := by
  cases h with
  | fees hfees =>
    obtain ⟨htype, hforeign⟩ := typeFor_of_mixesFees hfees
    rw [f.signedTx_of_refused signer hforeign, htype, Operation.hold_throw]
  | query hfees hf =>
    exact (f.asks_signedTx signer ((foreignField?_typeFor args).2 hfees)).failed chain s hf
  | @signer answers own hfees hg hown hne =>
    have hchain := f.chainId_txFrom signer answers hfees
    rw [signedTx_of_gives hfees hg, sign, UnsignedTx.sign_eq_error hchain hown hne]
    rfl
  | @numbers answers v hfees hg hs hobjection =>
    obtain ⟨tx, henvelope, -, -, hresult⟩ := signedTx_of_admits hfees hg hs
    rw [← henvelope] at hobjection
    rw [hresult, SignedTx.checked, SignedTx.validate_of_objection hobjection]
    rfl

/-- Refusals arise at four stages, and those of validation are about numbers. -/
theorem Refuses.stage_mem {e : FactoryError} (h : f.Refuses signer args chain s e) :
    e.stage ∈ [Stage.invalidArgs, .defaulting, .signing, .validation] ∧
      ∀ v, e = .validation v → (∃ gas, v = .gasLimitBelowIntrinsic gas) ∨
        (∃ tip cap, v = .tipAboveFeeCap tip cap) ∨ v = .costOverflow := by
  cases h with
  | fees => simp [FactoryError.stage]
  | @query q failure =>
    refine ⟨by simp [FactoryError.stage_unanswered], fun v hv => ?_⟩
    have hstage := FactoryError.stage_unanswered q failure
    rw [hv] at hstage
    cases hstage
  | signer => simp [FactoryError.stage]
  | numbers _ _ _ h => cases h <;> simp [FactoryError.stage]

/-- **A factory hands out a signed transaction exactly if all conditions hold, and otherwise the
error is that of the first that does not.**  It is never one of a stage that cannot fail here, and
validation never finds fault with chain, signature or sender.  The condition is on signatures alone:
a fresh one over the digest of the transaction gives the key's address away. -/
theorem verdict_of_signedTx (f : Factory) (signer : Signer) (args : TxArgs) (chain : Chain σ) (s : σ)
    (hsig : ∀ tx, ((f.unsignedTx signer args).hold chain s).result = .ok tx →
      signer.key.Recovers tx.envelope.signingHash) :
    ((∃ tx, ((f.signedTx signer args).hold chain s).result = .ok tx) ↔
        f.Accepts signer args chain s) ∧
      (∀ e, ((f.signedTx signer args).hold chain s).result = .error e ↔
        f.Refuses signer args chain s e) ∧
      ∀ e, ((f.signedTx signer args).hold chain s).result = .error e →
        e.stage ∈ [Stage.invalidArgs, .defaulting, .signing, .validation] ∧
          ∀ v, e = .validation v → (∃ gas, v = .gasLimitBelowIntrinsic gas) ∨
            (∃ tip cap, v = .tipAboveFeeCap tip cap) ∨ v = .costOverflow := by
  have haccepts : f.Accepts signer args chain s →
      ∃ tx, ((f.signedTx signer args).hold chain s).result = .ok tx :=
    fun h => signedTx_of_accepts h hsig
  have hrefuses : ∀ e, ((f.signedTx signer args).hold chain s).result = .error e →
      f.Refuses signer args chain s e := by
    intro e he
    rcases f.accepts_or_refuses signer args chain s with h | ⟨e', h⟩
    · obtain ⟨tx, htx⟩ := haccepts h
      rw [htx] at he
      cases he
    · have he' := signedTx_of_refuses h
      rw [he] at he'
      cases he'
      exact h
  refine ⟨⟨?_, haccepts⟩, fun e => ⟨hrefuses e, signedTx_of_refuses⟩,
    fun e he => (hrefuses e he).stage_mem⟩
  rintro ⟨tx, htx⟩
  rcases f.accepts_or_refuses signer args chain s with h | ⟨e, h⟩
  · exact h
  · rw [signedTx_of_refuses h] at htx
    cases htx

set_option maxRecDepth 100000 in
/-- A key with nothing set, on a chain that answers everything with the least gas limit. -/
theorem verdict_of_uniform :
    ∃ tx, (((⟨1, {}⟩ : Factory).signedTx ⟨⟨1, by decide, by decide⟩, none⟩ {}).hold
      (.uniform 21000) ()).result = .ok tx := by
  refine (verdict_of_signedTx ⟨1, {}⟩ ⟨⟨1, by decide, by decide⟩, none⟩ {} (.uniform 21000) ()
    ?_).1.2 ⟨?_, ?_⟩
  · intro tx htx
    cases htx
    show (Key.sign _ _).recover? _ = some (Key.address _)
    decide +kernel
  · simp [TxArgs.MixesFees]
  · refine ⟨_, Chain.gives_uniform 21000 _, .inl rfl, ?_, ?_, ?_⟩
    · decide
    · intro tip htip
      cases htip
      decide
    · decide

end Factory
end TxForge
