import TxForge.Proofs.Provenance
import TxForge.Proofs.QueryOrder
import TxForge.Proofs.Verdict

/-!
# The room that a fee cap leaves

A fee cap that the caller leaves open is filled in with base fee and tip together, up to the
greatest price there is.  The tip is settled first, by the caller or by the chain, so the sum always
has the tip that the transaction offers.

* `TxArgs.CapFilled` — the fee cap is that sum, and leaves room for both its parts.
* `Factory.FillsCap` — filling in ends with such args, if the chain answers what it is asked.  Both
  ways into it do (`Factory.fillsCap_of_asks`).
* `Factory.Sourced.tip_le_feeCap` — the same, seen from the transaction that is made of the args.
* `Factory.headroom_of_defaulting` — so validation finds fault with a tip only if the caller set the
  fee cap.  A cost that overflows is a matter of the amount alone: with any gas limit and any fee
  cap there is room for what is below `2 ^ 256 - 2 ^ 192`.

Nothing is asked of signatures, since validation looks at both before it recovers a sender.
-/

set_option autoImplicit false

namespace TxForge

/-- The args offer the tip, under a fee cap that was filled in with it at the base fee. -/
structure TxArgs.CapFilled (p : TxArgs) (baseFee tip : Price) : Prop where
  offered : p.maxPriorityFeePerGas = some tip
  feeCap : ∃ cap, p.maxFeePerGas = some cap ∧
    cap.toNat = min (baseFee.toNat + tip.toNat) (2 ^ 128 - 1) ∧
      tip.toNat ≤ cap.toNat ∧ baseFee.toNat ≤ cap.toNat

/-- A transaction that does not pass has the fault that the error names. -/
theorem SignedTx.fault_of_checked {tx : SignedTx} {v : ValidationError}
    (h : tx.checked = .error (.validation v)) : tx.Fault v := by
  rw [checked] at h
  rcases hvalidate : tx.validate with v' | u
  · rw [hvalidate] at h
    cases h
    exact fault_of_validate hvalidate
  · rw [hvalidate] at h
    cases h

namespace Factory

variable {σ : Type} {f : Factory} {sender : Address} {signer : Signer} {args : TxArgs}
  {answers : Answers} {chain : Chain σ} {s : σ}

/-! ## Args -/

/-- The sum is cut off where all prices end, so it is cut off above its parts. -/
theorem le_toNat_saturated_add (a b : Price) :
    a.toNat ≤ (saturated 128 (a.toNat + b.toNat)).toNat ∧
      b.toNat ≤ (saturated 128 (a.toNat + b.toNat)).toNat := by
  have ha := a.isLt
  have hb := b.isLt
  rw [toNat_saturated_128]
  omega

theorem capFilled_filled (hcap : args.maxFeePerGas = none) :
    (f.filled sender answers .dynamicFee args).CapFilled (answers .baseFee)
      (args.tipFrom answers) where
  offered := by simp
  feeCap := by
    obtain ⟨hbase, htip⟩ := le_toNat_saturated_add (answers .baseFee) (args.tipFrom answers)
    refine ⟨_, by simp only [filled_maxFeePerGas, if_true, TxArgs.feeCapFrom, hcap]; rfl, ?_⟩
    exact ⟨toNat_saturated_128 _, htip, hbase⟩

/-- What becomes of args that leave the fee cap of a dynamic-fee transaction open.  The base fee is
always an answer of the chain, and the tip is one where the caller does not set it. -/
structure FillsCap (f : Factory) (sender : Address) (args : TxArgs) (chain : Chain σ) (s : σ)
    (outcome : Except FactoryError TxArgs) : Prop where
  /-- Without a gas price, which would be out of place, answers are all that it takes. -/
  succeeds : args.gasPrice = none → ∀ answers,
    chain.Gives answers (f.plan sender .dynamicFee args) s → ∃ p, outcome = .ok p
  fills : ∀ p, outcome = .ok p →
    ∃ answers, chain.Gives answers (f.plan sender .dynamicFee args) s ∧
      p.CapFilled (answers .baseFee) (args.maxPriorityFeePerGas.getD (answers .maxPriorityFee))

theorem fillsCap_of_asks {op : Operation TxArgs} (hcap : args.maxFeePerGas = none)
    (hrefused : ∀ field, args.foreignField? .dynamicFee = some field →
      op = throw (.fieldNotAllowed .dynamicFee field))
    (hasks : args.foreignField? .dynamicFee = none →
      op.Asks (f.plan sender .dynamicFee args) fun answers =>
        .ok (f.filled sender answers .dynamicFee args)) :
    f.FillsCap sender args chain s (op.hold chain s).result := by
  cases hfield : args.foreignField? .dynamicFee with
  | some field =>
    rw [hrefused field hfield, Operation.hold_throw]
    refine ⟨fun hprice => ?_, fun p hp => by cases hp⟩
    simp [TxArgs.foreignField?, hprice] at hfield
  | none =>
    refine ⟨fun _ answers hg => ⟨_, (hasks hfield).answered chain s hg⟩, fun p hp => ?_⟩
    obtain ⟨answers, hg, hfilled⟩ := (hasks hfield).exists_gives (f.nodup_plan _ _ _) hp
    cases hfilled
    exact ⟨answers, hg, capFilled_filled hcap⟩

theorem fillsCap_populate (hcap : args.maxFeePerGas = none) (htype : typeFor args = .dynamicFee) :
    f.FillsCap sender args chain s ((f.populate sender args).hold chain s).result := by
  refine fillsCap_of_asks hcap (fun field hfield => ?_) fun hallowed => ?_
  · rw [populate_eq, htype, hfield]
  · rw [← htype] at hallowed ⊢
    exact asks_populate hallowed

theorem fillsCap_defaultArgs (hcap : args.maxFeePerGas = none) :
    f.FillsCap sender args chain s
      ((f.defaultArgs sender .dynamicFee args).hold chain s).result := by
  refine fillsCap_of_asks hcap (fun field hfield => ?_) fun hallowed => ?_
  · exact (defaultArgs_eq f sender .dynamicFee args).trans (by rw [hfield])
  · exact asks_defaultArgs hallowed

/-! ## Transactions -/

/-- The tip fits under a fee cap that the caller left open. -/
theorem Sourced.tip_le_feeCap {e : Envelope} (h : f.Sourced sender answers args e)
    (hcap : args.maxFeePerGas = none) {tip : Price} (htip : e.tip? = some tip) :
    tip.toNat ≤ e.feeCap.toNat := by
  cases hprice : args.gasPrice with
  | some price =>
    -- a transaction with a gas price has no tip
    rw [(h.gasPrice price hprice).2] at htip
    cases htip
  | none =>
    have hbound := tip.isLt
    rw [h.defaultedFeeCap hprice hcap tip htip]
    omega

/-- A call that gets as far as validation was given all answers on the way. -/
theorem exists_gives_of_validation {v : ValidationError}
    (h : ((f.signedTx signer args).hold chain s).result = .error (.validation v)) :
    ¬ args.MixesFees ∧
      ∃ answers, chain.Gives answers (f.plan signer.address (typeFor args) args) s := by
  have hfees : ¬ args.MixesFees := by
    intro hmixes
    rw [f.signedTx_of_refused signer (typeFor_of_mixesFees hmixes).2] at h
    cases h
  have hasks := f.asks_signedTx signer ((foreignField?_typeFor args).2 hfees)
  rcases hf : chain.firstFailure? (f.plan signer.address (typeFor args) args) s with _ | ⟨q, failure⟩
  · exact ⟨hfees, Chain.exists_gives_of_firstFailure?_eq_none (f.nodup_plan _ _ _) hf⟩
  · -- a query that fails is an error of an earlier stage
    have hstage := FactoryError.stage_unanswered q failure
    rw [hasks.failed chain s hf] at h
    rw [Except.error.inj h] at hstage
    cases hstage

/-- What fails validation is a transaction made of the args, with that fault. -/
theorem exists_sourced_of_validation {v : ValidationError}
    (h : ((f.signedTx signer args).hold chain s).result = .error (.validation v)) :
    ∃ (answers : Answers) (tx : SignedTx),
      f.Sourced signer.address answers args tx.envelope ∧ tx.Fault v := by
  obtain ⟨hfees, answers, hg⟩ := exists_gives_of_validation h
  have hsourced := f.sourced_txFrom signer.address answers hfees
  rw [signedTx_of_gives hfees hg, sign] at h
  rcases hsign : (f.txFrom signer.address answers args).sign signer with e | tx
  · rw [hsign] at h
    cases h
  · rw [hsign] at h
    rw [← (UnsignedTx.eq_of_sign_eq_ok hsourced.chainId hsign).2.1] at hsourced
    exact ⟨answers, tx, hsourced, SignedTx.fault_of_checked h⟩

/-- The call for a transaction or that for a message ends with this verdict of validation. -/
def FailsValidation (f : Factory) (signer : Signer) (args : TxArgs) (chain : Chain σ) (s : σ)
    (v : ValidationError) : Prop :=
  ((f.signedTx signer args).hold chain s).result = .error (.validation v) ∨
    ((f.chainMessage signer args).hold chain s).result = .error (.validation v)

/-- A verdict on a message is one on its transaction. -/
theorem FailsValidation.signedTx {v : ValidationError}
    (h : f.FailsValidation signer args chain s v) :
    ((f.signedTx signer args).hold chain s).result = .error (.validation v) :=
  h.elim id (chainMessage_addsBaseFee.earlier (.validation v) (by simp [FactoryError.stage])).1

theorem isSome_maxFeePerGas_of_tipAboveFeeCap {tip cap : Price}
    (h : f.FailsValidation signer args chain s (.tipAboveFeeCap tip cap)) :
    args.maxFeePerGas.isSome := by
  obtain ⟨answers, tx, hsourced, hfault⟩ := exists_sourced_of_validation h.signedTx
  cases hcap : args.maxFeePerGas with
  | some cap => rfl
  | none =>
    cases hfault with
    | numbers hobjection =>
      cases hobjection with
      | tip _ htip hlt => exact absurd (hsourced.tip_le_feeCap hcap htip) (Nat.not_le.2 hlt)

theorem le_value_of_failsValidation (h : f.FailsValidation signer args chain s .costOverflow) :
    2 ^ 256 - 2 ^ 192 ≤ args.value.toNat := by
  obtain ⟨answers, tx, hsourced, hfault⟩ := exists_sourced_of_validation h.signedTx
  have hvalue := SignedTx.le_value_of_costOverflow hfault
  rw [hsourced.value] at hvalue
  omega

/-- **A fee cap that is filled in leaves room for base fee and tip.**  So a tip above the fee cap is
the caller's doing, and with any fee cap an amount below `2 ^ 256 - 2 ^ 192` never makes the cost
overflow. -/
theorem headroom_of_defaulting (f : Factory) (sender : Address) (signer : Signer) (args : TxArgs)
    (chain : Chain σ) (s : σ) :
    (args.maxFeePerGas = none →
      (typeFor args = .dynamicFee →
        f.FillsCap sender args chain s ((f.populate sender args).hold chain s).result) ∧
      f.FillsCap sender args chain s
        ((f.defaultArgs sender .dynamicFee args).hold chain s).result) ∧
    (∀ tip cap, f.FailsValidation signer args chain s (.tipAboveFeeCap tip cap) →
      args.maxFeePerGas.isSome) ∧
    (args.value.toNat < 2 ^ 256 - 2 ^ 192 →
      ¬ f.FailsValidation signer args chain s .costOverflow) :=
  ⟨fun hcap => ⟨fillsCap_populate hcap, fillsCap_defaultArgs hcap⟩,
    fun _ _ => isSome_maxFeePerGas_of_tipAboveFeeCap,
    fun hvalue h => absurd (le_value_of_failsValidation h) (Nat.not_le.2 hvalue)⟩

/-- The highest base fee and tip that there are. -/
theorem headroom_of_highest_fees :
    let f : Factory := ⟨1, {}⟩
    let signer : Signer := ⟨⟨1, by decide, by decide⟩, none⟩
    let chain := Chain.uniform (2 ^ 128 - 1)
    (∃ p cap, ((f.populate signer.address {}).hold chain ()).result = .ok p ∧
      p.maxFeePerGas = some cap ∧ cap.toNat = 2 ^ 128 - 1) ∧
    ∀ tip cap, ¬ f.FailsValidation signer {} chain () (.tipAboveFeeCap tip cap) := by
  intro f signer chain
  obtain ⟨hfills, htip, -⟩ := headroom_of_defaulting f signer.address signer {} chain ()
  refine ⟨?_, fun tip cap h => by cases htip tip cap h⟩
  have hpopulate := (hfills rfl).1 rfl
  obtain ⟨p, hp⟩ := hpopulate.succeeds rfl _ (Chain.gives_uniform _ _)
  obtain ⟨answers, ⟨-, -, hbase, -⟩, -, cap, hcap, hsum, -, hle⟩ := hpopulate.fills p hp
  have hhighest : answers .baseFee = BitVec.ofNat 128 (2 ^ 128 - 1) := (Except.ok.inj hbase).symm
  rw [hhighest] at hle hsum
  have hvalue : (BitVec.ofNat 128 (2 ^ 128 - 1)).toNat = 2 ^ 128 - 1 := by decide
  exact ⟨p, cap, hp, hcap, by omega⟩

end Factory
end TxForge
