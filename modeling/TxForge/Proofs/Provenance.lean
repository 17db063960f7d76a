import Mathlib.Algebra.Group.Nat.Defs
import TxForge.Proofs.Complete
import TxForge.Proofs.Production
import TxForge.Proofs.Signing

/-!
# Where the fields of a transaction come from

Every field of a transaction that a factory produces is the caller's where the caller set it, and
otherwise an answer of the chain or a default that is made of one.

* `Factory.Sourced` — each field of an envelope, with its source.
* `TxArgs.Honoured` — what the caller set stands in the envelope: nothing is overwritten, and
  nothing is dropped for want of a place.
* `Factory.txFrom` — the transaction that the answers make of the args.  Its type is settled twice,
  once before anything is filled in and once when the transaction is assembled, and the two agree
  on it (`Factory.ofArgs_filled`).
* `Factory.sourced_of_production` — whichever operation the transaction comes out of.
-/

set_option autoImplicit false

namespace TxForge

/-- The envelope has its fields from the args, and from the answers where the args leave them open.
A missing nonce is the sender's own. -/
structure Factory.Sourced (f : Factory) (sender : Address) (answers : Answers) (args : TxArgs)
    (e : Envelope) : Prop where
  txType : e.txType =
    if args.gasPrice = none then .dynamicFee
    else if args.accessList.isSome then .accessList else .legacy
  chainId : e.chainId = some (args.chainId.getD f.chainId)
  nonce : e.nonce = args.nonce.getD (answers (.nonce sender))
  gasLimit : e.gasLimit = args.gasLimit.getD (answers (f.estimation sender args))
  recipient : e.recipient = args.recipient
  value : e.value = args.value
  input : e.input = args.input
  /-- A dynamic-fee transaction always has a list, a legacy one never. -/
  accessList : e.accessList? =
    if args.gasPrice = none then some (args.accessList.getD []) else args.accessList
  /-- A gas price comes from the caller alone. -/
  gasPrice : ∀ price, args.gasPrice = some price → e.feeCap = price ∧ e.tip? = none
  tip : args.gasPrice = none →
    e.tip? = some (args.maxPriorityFeePerGas.getD (answers .maxPriorityFee))
  feeCap : ∀ cap, args.maxFeePerGas = some cap → e.feeCap = cap
  /-- The tip is the one that the transaction offers, whoever it came from. -/
  defaultedFeeCap : args.gasPrice = none → args.maxFeePerGas = none →
    ∀ tip, e.tip? = some tip →
      e.feeCap.toNat = min ((answers .baseFee).toNat + tip.toNat) (2 ^ 128 - 1)

/-- What the caller set stands in the envelope. -/
structure TxArgs.Honoured (args : TxArgs) (e : Envelope) : Prop where
  chainId : ∀ chainId, args.chainId = some chainId → e.chainId = some chainId
  nonce : ∀ nonce, args.nonce = some nonce → e.nonce = nonce
  gasLimit : ∀ gasLimit, args.gasLimit = some gasLimit → e.gasLimit = gasLimit
  gasPrice : ∀ price, args.gasPrice = some price → e.feeCap = price ∧ e.tip? = none
  maxFeePerGas : ∀ cap, args.maxFeePerGas = some cap → e.feeCap = cap ∧ e.tip?.isSome
  maxPriorityFeePerGas : ∀ tip, args.maxPriorityFeePerGas = some tip → e.tip? = some tip
  accessList : ∀ list, args.accessList = some list → e.accessList? = some list
  recipient : e.recipient = args.recipient
  value : e.value = args.value
  input : e.input = args.input

namespace Factory

variable {f : Factory} {sender : Address} {answers : Answers} {args : TxArgs}

/-! ## The two choices of a type -/

theorem noFees_of_gasPrice (hprice : args.gasPrice.isSome) (h : ¬ args.MixesFees) :
    args.maxFeePerGas = none ∧ args.maxPriorityFeePerGas = none := by
  simpa [TxArgs.MixesFees, hprice] using h

theorem noGasPrice_of_fee (hfee : args.maxFeePerGas.isSome ∨ args.maxPriorityFeePerGas.isSome)
    (h : ¬ args.MixesFees) : args.gasPrice = none := by
  simpa [TxArgs.MixesFees, hfee] using h

theorem typeFor_of_gasPrice (hprice : args.gasPrice.isSome) (h : ¬ args.MixesFees) :
    typeFor args = if args.accessList.isSome then .accessList else .legacy := by
  obtain ⟨hcap, htip⟩ := noFees_of_gasPrice hprice h
  simp [typeFor, TxArgs.impliedType, hprice, hcap, htip]

theorem typeFor_of_noGasPrice (hprice : args.gasPrice = none) : typeFor args = .dynamicFee := by
  simp [typeFor, hprice]

theorem toNat_saturated_128 (n : Nat) : (saturated 128 n).toNat = min n (2 ^ 128 - 1) := by
  rw [toNat_saturated, capacity, Nat.one_shiftLeft]

/-! ## Assembly -/

variable (f sender answers args)

/-- The transaction that the answers make of the args. -/
def txFrom : UnsignedTx :=
  let chainId := args.chainId.getD f.chainId
  let nonce := args.nonce.getD (answers (.nonce sender))
  let gasLimit := f.gasLimitFrom sender answers args
  match args.gasPrice, args.accessList with
  | none, list =>
    .dynamicFee ⟨chainId, nonce, args.tipFrom answers, args.feeCapFrom answers, gasLimit,
      args.recipient, args.value, args.input, list.getD []⟩
  | some price, some list =>
    .accessList ⟨chainId, nonce, price, gasLimit, args.recipient, args.value, args.input, list⟩
  | some price, none =>
    .legacy ⟨some chainId, nonce, price, gasLimit, args.recipient, args.value, args.input⟩

variable {args}

/-- **Args that are filled in can be assembled.**  The type that they imply afterwards is the one
that they were filled in for. -/
theorem ofArgs_filled (h : ¬ args.MixesFees) :
    UnsignedTx.ofArgs (f.filled sender answers (typeFor args) args) =
      .ok (f.txFrom sender answers args) := by
  have himplied : (f.filled sender answers (typeFor args) args).impliedType = typeFor args :=
    (filled_complete (typeFor_priced args) typeFor_accessList
      ((foreignField?_typeFor args).2 h)).impliedType_eq
  simp only [UnsignedTx.ofArgs, himplied, UnsignedTx.required, filled_chainId, filled_nonce,
    filled_gasLimit, filled_gasPrice, filled_maxFeePerGas, filled_maxPriorityFeePerGas,
    filled_recipient, filled_value, filled_input, filled_accessList, txFrom]
  cases hprice : args.gasPrice with
  | none =>
    rw [typeFor_of_noGasPrice hprice]
    rfl
  | some price =>
    rw [typeFor_of_gasPrice (by rw [hprice]; rfl) h]
    cases args.accessList <;> rfl

theorem assembled_eq (h : ¬ args.MixesFees) :
    f.assembled sender answers args = .ok (f.txFrom sender answers args) := by
  rw [assembled, ofArgs_filled f sender answers h]
  rfl

/-- **Each field has its source.** -/
theorem sourced_txFrom (h : ¬ args.MixesFees) :
    f.Sourced sender answers args (f.txFrom sender answers args).envelope := by
  have hcap : args.gasPrice.isSome → args.maxFeePerGas = none :=
    fun hprice => (noFees_of_gasPrice hprice h).1
  rw [txFrom]
  cases hprice : args.gasPrice <;> cases hlist : args.accessList <;> constructor <;>
    simp +contextual [hcap, hprice, hlist, UnsignedTx.envelope, Envelope.txType, Envelope.chainId,
      Envelope.nonce, Envelope.gasLimit, Envelope.recipient, Envelope.value, Envelope.input,
      Envelope.accessList?, Envelope.tip?, Envelope.feeCap, gasLimitFrom, TxArgs.tipFrom,
      TxArgs.feeCapFrom, toNat_saturated_128]

/-! ## Production -/

variable {σ : Type} (chain : Chain σ) (s : σ)

/-- The chain was asked for what the args leave open, and the envelope is made of its answers and
of what the caller set, all of which it has. -/
def MadeFrom (args : TxArgs) (e : Envelope) : Prop :=
  ∃ answers, chain.Gives answers (f.plan sender (typeFor args) args) s ∧
    f.Sourced sender answers args e ∧ args.Honoured e

variable {f sender answers chain s}

/-- No field of the caller is overwritten or dropped. -/
theorem Sourced.honoured {e : Envelope} (h : f.Sourced sender answers args e)
    (hfees : ¬ args.MixesFees) : args.Honoured e where
  chainId chainId hset := by
    rw [h.chainId, hset]
    rfl
  nonce nonce hset := by
    rw [h.nonce, hset]
    rfl
  gasLimit gasLimit hset := by
    rw [h.gasLimit, hset]
    rfl
  gasPrice := h.gasPrice
  maxFeePerGas cap hset := by
    have hprice := noGasPrice_of_fee (.inl (by rw [hset]; rfl)) hfees
    refine ⟨h.feeCap cap hset, ?_⟩
    rw [h.tip hprice]
    rfl
  maxPriorityFeePerGas tip hset := by
    rw [h.tip (noGasPrice_of_fee (.inr (by rw [hset]; rfl)) hfees), hset]
    rfl
  accessList list hset := by
    rw [h.accessList, hset]
    split <;> rfl
  recipient := h.recipient
  value := h.value
  input := h.input

theorem madeFrom_of_unsignedTx {signer : Signer} {tx : UnsignedTx}
    (h : ((f.unsignedTx signer args).hold chain s).result = .ok tx) :
    f.MadeFrom signer.address chain s args tx.envelope := by
  by_cases hfees : args.MixesFees
  · rw [f.unsignedTx_of_refused signer (typeFor_of_mixesFees hfees).2] at h
    cases h
  · have hasks := f.asks_unsignedTx signer ((foreignField?_typeFor args).2 hfees)
    obtain ⟨answers, hg, htx⟩ := hasks.exists_gives (f.nodup_plan _ _ _) h
    rw [assembled_eq f signer.address answers hfees] at htx
    cases htx
    have hsourced := f.sourced_txFrom signer.address answers hfees
    exact ⟨answers, hg, hsourced, hsourced.honoured hfees⟩

/-- Signing keeps the transaction, and puts signer and chain on record. -/
theorem madeFrom_of_uncheckedTx {signer : Signer} {tx : SignedTx}
    (h : ((f.uncheckedTx signer args).hold chain s).result = .ok tx) :
    f.MadeFrom signer.address chain s args tx.envelope ∧ tx.sender = signer.address ∧
      tx.envelope.chainId = some tx.chainId := by
  obtain ⟨bare, hbare, hsign⟩ := exists_of_uncheckedTx h
  obtain ⟨answers, hg, hsourced, hhonoured⟩ := madeFrom_of_unsignedTx hbare
  obtain ⟨-, henvelope, hsender, hchain⟩ :=
    UnsignedTx.eq_of_sign_eq_ok hsourced.chainId hsign
  rw [henvelope, hchain]
  exact ⟨⟨answers, hg, hsourced, hhonoured⟩, hsender, hsourced.chainId⟩

/-- **Where the fields of a transaction come from**, whichever operation it comes out of. -/
theorem sourced_of_production (f : Factory) (signer : Signer) (args : TxArgs) (chain : Chain σ)
    (s : σ) :
    (∀ tx, ((f.unsignedTx signer args).hold chain s).result = .ok tx →
      f.MadeFrom signer.address chain s args tx.envelope) ∧
    (∀ tx, ((f.uncheckedTx signer args).hold chain s).result = .ok tx →
      f.MadeFrom signer.address chain s args tx.envelope ∧ tx.sender = signer.address ∧
        tx.envelope.chainId = some tx.chainId) ∧
    (∀ tx, ((f.signedTx signer args).hold chain s).result = .ok tx →
      f.MadeFrom signer.address chain s args tx.envelope ∧ tx.sender = signer.address ∧
        tx.envelope.chainId = some tx.chainId) :=
  ⟨fun _ => madeFrom_of_unsignedTx, fun _ => madeFrom_of_uncheckedTx,
    fun _ h => madeFrom_of_uncheckedTx (unchecked_of_signedTx h).1⟩

/-- A price and an empty list, on a chain that answers everything with the same number. -/
theorem sourced_of_uniform :
    let f : Factory := ⟨1, {}⟩
    let signer : Signer := ⟨⟨1, by decide, by decide⟩, none⟩
    let args : TxArgs := { gasPrice := some 5, accessList := some [] }
    f.MadeFrom signer.address (.uniform 7) () args (.accessList ⟨1, 7, 5, 7, none, 0, [], []⟩) ∧
      ∃ tx, ((f.uncheckedTx signer args).hold (.uniform 7) ()).result = .ok tx ∧
        f.MadeFrom signer.address (.uniform 7) () args tx.envelope ∧ tx.chainId = 1 := by
  intro f signer args
  obtain ⟨hunsigned, hunchecked, -⟩ := sourced_of_production f signer args (.uniform 7) ()
  exact ⟨hunsigned (.accessList ⟨1, 7, 5, 7, none, 0, [], []⟩) rfl, _, rfl,
    (hunchecked _ rfl).1, rfl⟩

end Factory
end TxForge
