import Mathlib.Algebra.Group.Nat.Defs
import TxForge.Signed.Validation

/-!
# What validation decides

Validation works out the cost in steps of 256 bits.  Here it is compared with the same conditions in
exact arithmetic, where the cost is one sum and nothing overflows.

* `Envelope.Payable` — gas limit, tip and cost are those of a transaction that a chain may take.
* `Envelope.Objection` — the first of the three that is not, as the error that names it.
* `SignedTx.validate_of_payable` and `SignedTx.validate_of_objection` — validation makes this
  difference, and has only chain and sender left to look at if there is no objection.
* `SignedTx.Valid` and `SignedTx.Fault` — all that validation asks of a signed transaction, and the
  error of the first thing that does not hold.
* `SignedTx.verdict_of_validate` — validation decides between the two.
-/

set_option autoImplicit false

namespace TxForge

namespace Envelope

/-- The numbers of the transaction are those of one that a chain may take. -/
structure Payable (e : Envelope) : Prop where
  gasLimit : intrinsicGas ≤ e.gasLimit.toNat
  tip : ∀ tip, e.tip? = some tip → tip.toNat ≤ e.feeCap.toNat
  cost : e.gasLimit.toNat * e.feeCap.toNat + e.value.toNat < 2 ^ 256

/-- What stands in the way of a transaction: the first of its numbers that no chain takes. -/
inductive Objection (e : Envelope) : ValidationError → Prop
  | gasLimit (h : e.gasLimit.toNat < intrinsicGas) : Objection e (.gasLimitBelowIntrinsic e.gasLimit)
  | tip {tip : Price} (hgas : intrinsicGas ≤ e.gasLimit.toNat) (htip : e.tip? = some tip)
    (h : e.feeCap.toNat < tip.toNat) : Objection e (.tipAboveFeeCap tip e.feeCap)
  | cost (hgas : intrinsicGas ≤ e.gasLimit.toNat)
    (htip : ∀ tip, e.tip? = some tip → tip.toNat ≤ e.feeCap.toNat)
    (h : 2 ^ 256 ≤ e.gasLimit.toNat * e.feeCap.toNat + e.value.toNat) : Objection e .costOverflow

variable {e : Envelope}

/-- There is an objection unless there is none to make. -/
theorem payable_or_objection (e : Envelope) : e.Payable ∨ ∃ v, e.Objection v := by
  by_cases hgas : intrinsicGas ≤ e.gasLimit.toNat
  · by_cases htip : ∀ tip, e.tip? = some tip → tip.toNat ≤ e.feeCap.toNat
    · by_cases hcost : e.gasLimit.toNat * e.feeCap.toNat + e.value.toNat < 2 ^ 256
      · exact .inl ⟨hgas, htip, hcost⟩
      · exact .inr ⟨_, .cost hgas htip (Nat.not_lt.1 hcost)⟩
    · simp only [Classical.not_forall, Nat.not_le] at htip
      obtain ⟨tip, hset, h⟩ := htip
      exact .inr ⟨_, .tip hgas hset h⟩
  · exact .inr ⟨_, .gasLimit (Nat.not_le.1 hgas)⟩

theorem excessTip?_eq_some {tip : Price} (htip : e.tip? = some tip)
    (h : e.feeCap.toNat < tip.toNat) : e.excessTip? = some tip := by
  rw [excessTip?, htip, Option.filter_some, if_pos (decide_eq_true h)]

theorem excessTip?_eq_none (h : ∀ tip, e.tip? = some tip → tip.toNat ≤ e.feeCap.toNat) :
    e.excessTip? = none := by
  rw [excessTip?, Option.filter_eq_none_iff]
  intro tip htip
  simpa using h tip htip

/-- The fee alone is a product of 64 and 128 bits. -/
theorem fee_le (e : Envelope) :
    e.gasLimit.toNat * e.feeCap.toNat ≤ (2 ^ 64 - 1) * (2 ^ 128 - 1) :=
  Nat.mul_le_mul (Nat.le_sub_one_of_lt e.gasLimit.isLt) (Nat.le_sub_one_of_lt e.feeCap.isLt)

/-- The fee alone fits. -/
theorem exists_bounded?_fee (e : Envelope) :
    ∃ fee : Wei, bounded? 256 (e.gasLimit.toNat * e.feeCap.toNat) = some fee ∧
      fee.toNat = e.gasLimit.toNat * e.feeCap.toNat := by
  have hcapacity : (2 ^ 64 - 1) * (2 ^ 128 - 1) < capacity 256 := by decide
  have hfee := Nat.lt_of_le_of_lt e.fee_le hcapacity
  exact ⟨_, if_pos hfee, toNat_ofNat_of_lt hfee⟩

/-- **The steps overflow exactly if the sum does.**  A product of 64 and 128 bits never does. -/
theorem isSome_cost? :
    e.cost?.isSome ↔ e.gasLimit.toNat * e.feeCap.toNat + e.value.toNat < 2 ^ 256 := by
  have hcapacity : capacity 256 = 2 ^ 256 := by rw [capacity, Nat.one_shiftLeft]
  obtain ⟨fee, hfee, htoNat⟩ := e.exists_bounded?_fee
  rw [cost?, hfee, Option.bind_some, htoNat, bounded?, hcapacity]
  split <;> simp_all

end Envelope

namespace SignedTx

variable {tx : SignedTx}

theorem validate_of_objection {v : ValidationError} (h : tx.envelope.Objection v) :
    tx.validate = .error v := by
  cases h with
  | gasLimit h => rw [validate, if_pos h]
  | tip hgas htip h =>
    rw [validate, if_neg (Nat.not_lt.2 hgas), Envelope.excessTip?_eq_some htip h]
  | cost hgas htip h =>
    have hcost : tx.envelope.cost? = none := by
      rw [← Option.not_isSome_iff_eq_none, Envelope.isSome_cost?]
      exact Nat.not_lt.2 h
    rw [validate, if_neg (Nat.not_lt.2 hgas), Envelope.excessTip?_eq_none htip, hcost]

theorem validate_of_payable (h : tx.envelope.Payable) :
    tx.validate = if tx.envelope.chainId = some tx.chainId then tx.checkSender
      else .error (.chainIdMismatch tx.chainId tx.envelope.chainId) := by
  obtain ⟨cost, hcost⟩ := Option.isSome_iff_exists.1 (Envelope.isSome_cost?.2 h.cost)
  rw [validate, if_neg (Nat.not_lt.2 h.gasLimit), Envelope.excessTip?_eq_none h.tip, hcost]

theorem checkSender_eq_ok (h : tx.recover? = some tx.sender) : tx.checkSender = .ok () := by
  rw [checkSender, h]
  exact if_pos rfl

/-! ## The verdict -/

/-- All that validation asks of a signed transaction. -/
structure Valid (tx : SignedTx) : Prop where
  payable : tx.envelope.Payable
  chainId : tx.envelope.chainId = some tx.chainId
  sender : tx.signature.recover? tx.envelope.signingHash = some tx.sender

/-- The first thing that keeps a signed transaction from being valid, as the error that names it. -/
inductive Fault (tx : SignedTx) : ValidationError → Prop
  | numbers {v : ValidationError} (h : tx.envelope.Objection v) : Fault tx v
  | chainId (hpayable : tx.envelope.Payable) (h : tx.envelope.chainId ≠ some tx.chainId) :
    Fault tx (.chainIdMismatch tx.chainId tx.envelope.chainId)
  | signature (hpayable : tx.envelope.Payable) (hchain : tx.envelope.chainId = some tx.chainId)
    (h : tx.signature.recover? tx.envelope.signingHash = none) : Fault tx .invalidSignature
  | sender {recovered : Address} (hpayable : tx.envelope.Payable)
    (hchain : tx.envelope.chainId = some tx.chainId)
    (hrecovered : tx.signature.recover? tx.envelope.signingHash = some recovered)
    (h : recovered ≠ tx.sender) : Fault tx (.senderMismatch tx.sender recovered)

/-- A signed transaction without a fault is valid. -/
theorem valid_or_fault (tx : SignedTx) : tx.Valid ∨ ∃ v, tx.Fault v := by
  rcases tx.envelope.payable_or_objection with hpayable | ⟨v, h⟩
  · by_cases hchain : tx.envelope.chainId = some tx.chainId
    · cases hrecovered : tx.signature.recover? tx.envelope.signingHash with
      | none => exact .inr ⟨_, .signature hpayable hchain hrecovered⟩
      | some recovered =>
        by_cases h : recovered = tx.sender
        · exact .inl ⟨hpayable, hchain, h ▸ hrecovered⟩
        · exact .inr ⟨_, .sender hpayable hchain hrecovered h⟩
    · exact .inr ⟨_, .chainId hpayable hchain⟩
  · exact .inr ⟨v, .numbers h⟩

theorem validate_of_valid (h : tx.Valid) : tx.validate = .ok () := by
  rw [validate_of_payable h.payable, if_pos h.chainId, checkSender_eq_ok h.sender]

theorem validate_of_fault {v : ValidationError} (h : tx.Fault v) : tx.validate = .error v := by
  cases h with
  | numbers h => exact validate_of_objection h
  | chainId hpayable h => rw [validate_of_payable hpayable, if_neg h]
  | signature hpayable hchain h =>
    rw [validate_of_payable hpayable, if_pos hchain, checkSender, recover?, h]
  | sender hpayable hchain hrecovered h =>
    rw [validate_of_payable hpayable, if_pos hchain, checkSender, recover?, hrecovered]
    exact if_neg h

/-- What passes has nothing wrong with it. -/
theorem valid_of_validate (h : tx.validate = .ok ()) : tx.Valid := by
  rcases tx.valid_or_fault with hvalid | ⟨v, hfault⟩
  · exact hvalid
  · rw [validate_of_fault hfault] at h
    cases h

/-- What does not pass has a fault, the one that is named. -/
theorem fault_of_validate {v : ValidationError} (h : tx.validate = .error v) : tx.Fault v := by
  rcases tx.valid_or_fault with hvalid | ⟨v', hfault⟩
  · rw [validate_of_valid hvalid] at h
    cases h
  · rw [validate_of_fault hfault] at h
    cases h
    exact hfault

/-- Only an amount near the top of its range takes the cost past 256 bits. -/
theorem le_value_of_costOverflow (h : tx.Fault .costOverflow) :
    2 ^ 256 - (2 ^ 64 - 1) * (2 ^ 128 - 1) ≤ tx.envelope.value.toNat := by
  cases h with
  | numbers h =>
    cases h with
    | cost _ _ hcost =>
      have hfee := tx.envelope.fee_le
      omega

/-- **Validation accepts what is valid, and otherwise names the first fault.**  The fee alone never
overflows, so an overflow always comes from an amount near the top of its range. -/
theorem verdict_of_validate (tx : SignedTx) :
    (tx.validate = .ok () ↔ tx.Valid) ∧ (∀ v, tx.validate = .error v ↔ tx.Fault v) ∧
      (bounded? 256 (tx.envelope.gasLimit.toNat * tx.envelope.feeCap.toNat)).isSome ∧
      (tx.validate = .error .costOverflow →
        2 ^ 256 - (2 ^ 64 - 1) * (2 ^ 128 - 1) ≤ tx.envelope.value.toNat) := by
  have hfault : ∀ v, tx.validate = .error v → tx.Fault v := by
    intro v hv
    rcases tx.valid_or_fault with h | ⟨v', h⟩
    · rw [validate_of_valid h] at hv
      cases hv
    · rw [validate_of_fault h] at hv
      cases hv
      exact h
  obtain ⟨fee, hfee, -⟩ := tx.envelope.exists_bounded?_fee
  refine ⟨⟨fun hok => ?_, validate_of_valid⟩, fun v => ⟨hfault v, validate_of_fault⟩,
    Option.isSome_of_eq_some hfee, fun h => le_value_of_costOverflow (hfault _ h)⟩
  rcases tx.valid_or_fault with h | ⟨v, h⟩
  · exact h
  · rw [validate_of_fault h] at hok
    cases hok

/-- The greatest amount overflows with any fee. -/
theorem verdict_of_greatest_value :
    let tx : SignedTx := {
      envelope := .legacy ⟨none, 0, 1, 21000, none, BitVec.allOnes 256, []⟩
      signature := ⟨0, 0, false⟩
      sender := FixedBytes.ofNat 20 0
      chainId := 0 }
    tx.validate = .error .costOverflow ∧
      2 ^ 256 - (2 ^ 64 - 1) * (2 ^ 128 - 1) ≤ tx.envelope.value.toNat := by
  intro tx
  have hverdict := verdict_of_validate tx
  have hfault : tx.Fault .costOverflow :=
    .numbers (.cost (by decide) (fun tip htip => by cases htip) (by decide))
  have hoverflow := (hverdict.2.1 _).2 hfault
  exact ⟨hoverflow, hverdict.2.2.2 hoverflow⟩

end SignedTx
end TxForge
