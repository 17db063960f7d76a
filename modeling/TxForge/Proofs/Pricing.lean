import TxForge.Proofs.Messages

/-!
# What a transaction pays at a base fee

A context that names the sender of a transaction makes a message of it at every base fee, and at
none.  `ChainMessage.Shows` says what stands in one of these messages.  This file looks at all of
them together, as a function of the base fee.

* `ChainMessage.Shows.gasPrice_eq`, `ChainMessage.Shows.eq_of_shows` — two messages of one
  transaction differ in their price at most, and the price is `Envelope.gasPriceAt`.
* `Envelope.gasPriceAt_le_feeCap`, `Envelope.gasPriceAt_mono`, `Envelope.gasPriceAt_between` —
  bounds on this price.  They are read off the minimum in exact arithmetic
  (`Envelope.toNat_gasPriceAt`), so the width of the sum plays no part in them.
* `Envelope.Pricing` — the law of prices of one transaction, and `Envelope.Affordable` what
  validation adds to it.  Both hold wherever there is a sender (`SignedTx.priced_of_sender`).
-/

set_option autoImplicit false

namespace TxForge

namespace Envelope

variable {e : Envelope} {tip : Price}

/-- The first two types have one price and no tip. -/
theorem tip?_eq_none_iff : e.tip? = none ↔ e.txType = .legacy ∨ e.txType = .accessList := by
  cases e <;> simp [tip?, txType]

/-! ## Bounds on the price -/

theorem gasPriceAt_le_feeCap (e : Envelope) (baseFee : Option Price) :
    (e.gasPriceAt baseFee).toNat ≤ e.feeCap.toNat := by
  cases htip : e.tip? with
  | none => exact Nat.le_of_eq (by rw [gasPriceAt_of_onePrice htip])
  | some tip =>
    cases baseFee with
    | none => exact Nat.le_of_eq (by rw [gasPriceAt_none])
    | some b =>
      rw [toNat_gasPriceAt htip]
      exact Nat.min_le_left _ _

/-- A higher base fee never makes a transaction cheaper. -/
theorem gasPriceAt_mono {b b' : Price} (h : b.toNat ≤ b'.toNat) :
    (e.gasPriceAt (some b)).toNat ≤ (e.gasPriceAt (some b')).toNat := by
  cases htip : e.tip? with
  | none => exact Nat.le_of_eq (by rw [gasPriceAt_of_onePrice htip, gasPriceAt_of_onePrice htip])
  | some tip =>
    rw [toNat_gasPriceAt htip, toNat_gasPriceAt htip]
    omega

/-- Up to the fee cap, the price covers the base fee and goes above it by the tip at most. -/
theorem gasPriceAt_between (htip : e.tip? = some tip) {b : Price}
    (hb : b.toNat ≤ e.feeCap.toNat) :
    b.toNat ≤ (e.gasPriceAt (some b)).toNat ∧
      (e.gasPriceAt (some b)).toNat ≤ b.toNat + tip.toNat := by
  rw [toNat_gasPriceAt htip]
  omega

/-- Whoever can pay the fee cap can pay the price. -/
theorem Payable.cost_gasPriceAt (h : e.Payable) (baseFee : Option Price) :
    e.gasLimit.toNat * (e.gasPriceAt baseFee).toNat + e.value.toNat < 2 ^ 256 := by
  have hcost := h.cost
  have hfee := Nat.mul_le_mul_left e.gasLimit.toNat (e.gasPriceAt_le_feeCap baseFee)
  omega

end Envelope

/-! ## The messages of one transaction -/

namespace ChainMessage.Shows

variable {m m' : ChainMessage} {sender : Address} {e : Envelope} {baseFee baseFee' : Option Price}

theorem gasPrice_eq (h : m.Shows sender e baseFee) : m.gasPrice = e.gasPriceAt baseFee := by
  cases htip : e.tip? with
  | none => rw [(h.onePrice htip).2, Envelope.gasPriceAt_of_onePrice htip]
  | some tip =>
    cases hfee : baseFee with
    | none => rw [h.noBaseFee hfee, Envelope.gasPriceAt_none]
    | some b =>
      apply BitVec.eq_of_toNat_eq
      rw [h.dynamicPrice tip htip b hfee, Envelope.toNat_gasPriceAt htip]

theorem tipCap_eq (h : m.Shows sender e baseFee) : m.tipCap = e.tip?.getD e.feeCap := by
  cases htip : e.tip? with
  | none => exact (h.onePrice htip).1
  | some tip => exact h.tipCap tip htip

/-- **The base fee shows in the price alone.** -/
theorem eq_of_shows (h : m.Shows sender e baseFee) (h' : m'.Shows sender e baseFee') :
    m' = { m with gasPrice := m'.gasPrice } := by
  rw [ChainMessage.mk.injEq]
  exact ⟨h'.sender.trans h.sender.symm, h'.recipient.trans h.recipient.symm,
    h'.nonce.trans h.nonce.symm, h'.value.trans h.value.symm, h'.gasLimit.trans h.gasLimit.symm, rfl,
    h'.feeCap.trans h.feeCap.symm, h'.tipCap_eq.trans h.tipCap_eq.symm,
    h'.input.trans h.input.symm, h'.accessList.trans h.accessList.symm⟩

end ChainMessage.Shows

/-- The law of prices of a transaction, for its messages at all base fees.  The arithmetic is that
of natural numbers. -/
structure Envelope.Pricing (e : Envelope) (message : Option Price → ChainMessage) : Prop where
  others : ∀ b b', message b' = { message b with gasPrice := (message b').gasPrice }
  feeCap : ∀ b, (message b).feeCap = e.feeCap
  noBaseFee : (message none).gasPrice = e.feeCap
  noTip : e.tip? = none ↔ e.txType = .legacy ∨ e.txType = .accessList
  onePrice : e.txType = .legacy ∨ e.txType = .accessList → ∀ b, message b = message none ∧
    (message b).gasPrice = e.feeCap ∧ (message b).tipCap = e.feeCap
  dynamicPrice : ∀ tip, e.tip? = some tip → ∀ b : Price, (message (some b)).tipCap = tip ∧
    (message (some b)).gasPrice.toNat = min e.feeCap.toNat (b.toNat + tip.toNat)
  le_feeCap : ∀ b, (message b).gasPrice.toNat ≤ (message b).feeCap.toNat
  mono : ∀ b b' : Price, b.toNat ≤ b'.toNat →
    (message (some b)).gasPrice.toNat ≤ (message (some b')).gasPrice.toNat

/-- What the messages of a valid transaction ask of its sender. -/
structure Envelope.Affordable (e : Envelope) (message : Option Price → ChainMessage) : Prop where
  cost : ∀ b, (message b).gasLimit.toNat * (message b).gasPrice.toNat + (message b).value.toNat <
    2 ^ 256
  between : ∀ tip, e.tip? = some tip → ∀ b : Price, b.toNat ≤ e.feeCap.toNat →
    b.toNat ≤ (message (some b)).gasPrice.toNat ∧
      (message (some b)).gasPrice.toNat ≤ b.toNat + tip.toNat

namespace Envelope

variable {e : Envelope} {sender : Address} {message : Option Price → ChainMessage}

theorem pricing_of_shows (h : ∀ baseFee, (message baseFee).Shows sender e baseFee) :
    e.Pricing message where
  others b b' := (h b).eq_of_shows (h b')
  feeCap b := (h b).feeCap
  noBaseFee := (h none).noBaseFee rfl
  noTip := tip?_eq_none_iff
  onePrice htype b := by
    obtain ⟨htip, hprice⟩ := (h b).onePrice (tip?_eq_none_iff.2 htype)
    refine ⟨?_, hprice, htip⟩
    rw [(h none).eq_of_shows (h b), hprice, ← (h none).noBaseFee rfl]
  dynamicPrice tip htip b := ⟨(h _).tipCap tip htip, (h _).dynamicPrice tip htip b rfl⟩
  le_feeCap b := by
    rw [(h b).gasPrice_eq, (h b).feeCap]
    exact e.gasPriceAt_le_feeCap b
  mono b b' hb := by
    rw [(h _).gasPrice_eq, (h _).gasPrice_eq]
    exact gasPriceAt_mono hb

theorem affordable_of_shows (h : ∀ baseFee, (message baseFee).Shows sender e baseFee)
    (hpayable : e.Payable) : e.Affordable message where
  cost b := by
    rw [(h b).gasLimit, (h b).gasPrice_eq, (h b).value]
    exact hpayable.cost_gasPriceAt b
  between tip htip b hb := by
    rw [(h _).gasPrice_eq]
    exact gasPriceAt_between htip hb

end Envelope

namespace SignedTx

/-- **What a transaction pays.**  Wherever its sender is told, it has a message at every base fee,
with a price that is exact, never above the fee cap and never falls as the base fee rises.  A
transaction that is valid can also pay it. -/
theorem priced_of_sender (tx : SignedTx) (context : SignerContext) {address : Address}
    (h : context.sender tx = .ok address) :
    ∃ message : Option Price → ChainMessage,
      (∀ baseFee, tx.toMessage context baseFee = .ok (message baseFee)) ∧
      tx.envelope.Pricing message ∧
      (tx.validate = .ok () → tx.envelope.Affordable message) := by
  obtain ⟨message, hmessage⟩ := Classical.skolem.1 (exists_toMessage_of_sender h)
  have hshows (baseFee : Option Price) := (hmessage baseFee).2
  exact ⟨message, fun baseFee => (hmessage baseFee).1, Envelope.pricing_of_shows hshows,
    fun hvalidate => Envelope.affordable_of_shows hshows (valid_of_validate hvalidate).payable⟩

set_option maxRecDepth 100000 in
/-- A fee cap of a hundred and a tip of ten, at a base fee that leaves room for the tip, at one that
does not, and at the highest there is. -/
theorem priced_of_transfer :
    let key : Key := ⟨1, by decide, by decide⟩
    let envelope : Envelope := .dynamicFee ⟨1, 0, 10, 100, 21000, none, 0, [], []⟩
    let tx : SignedTx := ⟨envelope, key.sign envelope.signingHash, key.address, 1⟩
    ∃ message : Option Price → ChainMessage,
      (∀ baseFee, tx.toMessage ⟨1⟩ baseFee = .ok (message baseFee)) ∧
      (message (some 50)).gasPrice.toNat = 60 ∧ (message (some 95)).gasPrice.toNat = 100 ∧
      (message (some (BitVec.allOnes 128))).gasPrice.toNat = 100 ∧
      envelope.Affordable message := by
  intro key envelope tx
  have hrecover : tx.recover? = some key.address := by
    show (Key.sign _ _).recover? _ = some (Key.address _)
    decide +kernel
  have hvalid : tx.validate = .ok () :=
    validate_of_valid ⟨⟨by decide, by rintro _ ⟨⟩; decide, by decide⟩, rfl, hrecover⟩
  obtain ⟨message, hmessage, hpricing, hafford⟩ :=
    priced_of_sender tx ⟨1⟩ (SignerContext.sender_eq_ok_iff.2 ⟨.inr rfl, hrecover⟩)
  have hexact (b : Price) := (hpricing.dynamicPrice 10 rfl b).2
  exact ⟨message, hmessage, hexact 50, hexact 95, hexact (BitVec.allOnes 128), hafford hvalid⟩

end SignedTx
end TxForge
