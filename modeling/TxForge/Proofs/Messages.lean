import TxForge.Proofs.Estimation
import TxForge.Proofs.Validation
import TxForge.Proofs.Verdict

/-!
# From a transaction to its message

A message is a transaction with two things worked out: who sent it, and what is paid per unit of
gas.  The sender is read off the signature by the rules of one chain.  The price is a minimum of
numbers one of which is a sum that may be too long for its width, and here it is compared with the
same minimum in exact arithmetic.

* `SignerContext.Covers`, `SignerContext.sender_eq_ok_iff` — which transactions a context takes, and
  whom it names as their sender.
* `ChainMessage.Shows` — all that a message says of its transaction, field by field.
* `Envelope.toNat_gasPriceAt` — the sum is cut off above every fee cap, so the minimum is exact.
* `Factory.Converts` — when a factory hands out a message, and what the error is if all that is
  wrong is the chain.
* `Factory.converted_of_chainMessage` — the account of the whole operation.  The chain id is looked
  at by the signer, by validation and by the context, and only the last of the three compares it
  with the chain of the factory.

Nothing is asked of signatures.  A transaction that is converted has passed validation before, and
validation has recovered its sender already.
-/

set_option autoImplicit false

namespace TxForge

/-! ## Who sent a transaction -/

/-- A chain id that may be absent is another one, or it is not. -/
theorem ChainId.home_or_foreign (id : Option ChainId) (here : ChainId) :
    (id = none ∨ id = some here) ∨ ∃ actual, id = some actual ∧ actual ≠ here := by
  cases id with
  | none => simp
  | some actual => simpa using Decidable.em (actual = here)

namespace SignerContext

variable {context : SignerContext} {tx : SignedTx}

/-- The transaction is bound to the chain of the context, or to none. -/
def Covers (context : SignerContext) (e : Envelope) : Prop :=
  e.chainId = none ∨ e.chainId = some context.chainId

theorem sender_of_covers (h : context.Covers tx.envelope) :
    context.sender tx = sender.recovered tx := by
  rcases h with h | h
  · rw [sender, h]
  · simp [sender, h]

theorem sender_of_foreign {actual : ChainId} (h : tx.envelope.chainId = some actual)
    (hne : actual ≠ context.chainId) :
    context.sender tx = .error (.chainIdMismatch context.chainId actual) := by
  simp [sender, h, hne]

/-- **A context names whoever the signature gives away**, if it covers the transaction. -/
theorem sender_eq_ok_iff {address : Address} :
    context.sender tx = .ok address ↔
      context.Covers tx.envelope ∧ tx.recover? = some address := by
  rcases ChainId.home_or_foreign tx.envelope.chainId context.chainId with h | ⟨actual, h, hne⟩
  · rw [sender_of_covers h, SignedTx.recovered_eq_ok]
    exact (and_iff_right h).symm
  · rw [sender_of_foreign h hne]
    simp [Covers, h, hne]

end SignerContext

/-! ## What a message says -/

/-- What a message says of a transaction that is run at a base fee, or at none.  The arithmetic is
that of natural numbers. -/
structure ChainMessage.Shows (m : ChainMessage) (sender : Address) (e : Envelope)
    (baseFee : Option Price) : Prop where
  sender : m.sender = sender
  recipient : m.recipient = e.recipient
  nonce : m.nonce = e.nonce
  value : m.value = e.value
  gasLimit : m.gasLimit = e.gasLimit
  input : m.input = e.input
  /-- A legacy transaction has none. -/
  accessList : m.accessList = e.accessList?.getD []
  feeCap : m.feeCap = e.feeCap
  /-- A type with one price has it for everything. -/
  onePrice : e.tip? = none → m.tipCap = e.feeCap ∧ m.gasPrice = e.feeCap
  tipCap : ∀ tip, e.tip? = some tip → m.tipCap = tip
  dynamicPrice : ∀ tip, e.tip? = some tip → ∀ b, baseFee = some b →
    m.gasPrice.toNat = min e.feeCap.toNat (b.toNat + tip.toNat)
  noBaseFee : baseFee = none → m.gasPrice = e.feeCap

namespace Envelope

variable {e : Envelope}

theorem gasPriceAt_of_onePrice (h : e.tip? = none) (baseFee : Option Price) :
    e.gasPriceAt baseFee = e.feeCap := by
  simp [gasPriceAt, h]

theorem gasPriceAt_none (e : Envelope) : e.gasPriceAt none = e.feeCap := by
  cases h : e.tip? <;> simp [gasPriceAt, h]

/-- **The price is exact.**  Where the sum is cut off it is above every fee cap already. -/
theorem toNat_gasPriceAt {tip : Price} (h : e.tip? = some tip) (baseFee : Price) :
    (e.gasPriceAt (some baseFee)).toNat = min e.feeCap.toNat (baseFee.toNat + tip.toNat) := by
  have hsum := Factory.toNat_saturated_128 (baseFee.toNat + tip.toNat)
  have hcap := e.feeCap.isLt
  simp only [gasPriceAt, h]
  split <;> omega

end Envelope

namespace SignedTx

variable {tx : SignedTx} {context : SignerContext}

/-- A sender is all that a message takes. -/
theorem exists_toMessage_of_sender {address : Address} (h : context.sender tx = .ok address)
    (baseFee : Option Price) :
    ∃ m, tx.toMessage context baseFee = .ok m ∧ m.Shows address tx.envelope baseFee := by
  rw [toMessage, h]
  refine ⟨_, rfl, rfl, rfl, rfl, rfl, rfl, rfl, rfl, rfl, fun hone => ?_, fun tip htip => ?_,
    fun tip htip b hb => ?_, fun hnone => ?_⟩
  · exact ⟨by rw [hone]; rfl, Envelope.gasPriceAt_of_onePrice hone baseFee⟩
  · rw [htip]
    rfl
  · rw [hb]
    exact Envelope.toNat_gasPriceAt htip b
  · rw [hnone]
    exact tx.envelope.gasPriceAt_none

theorem toMessage_of_error {e : SignerContextError} (h : context.sender tx = .error e)
    (baseFee : Option Price) : tx.toMessage context baseFee = .error e := by
  rw [toMessage, h]
  rfl

end SignedTx

/-! ## Messages of a factory -/

namespace Factory

/-- How the outcome for a message follows from that for its transaction and from the reply to one
more query for the base fee. -/
structure Converts (f : Factory) (sender : Address) (args : TxArgs)
    (signed : Except FactoryError SignedTx) (reply : Except Failure Price)
    (outcome : Except FactoryError ChainMessage) : Prop where
  succeeds : (∃ m, outcome = .ok m) ↔ (∃ tx, signed = .ok tx) ∧ (∃ b, reply = .ok b) ∧
    (args.chainId = none ∨ args.chainId = some f.chainId)
  shows : ∀ m, outcome = .ok m →
    ∃ tx b, signed = .ok tx ∧ reply = .ok b ∧ m.Shows sender tx.envelope (some b)
  /-- The one thing that can be wrong after both is the chain. -/
  foreign : ∀ tx b actual, signed = .ok tx → reply = .ok b → args.chainId = some actual →
    actual ≠ f.chainId → outcome = .error (.signerContext (.chainIdMismatch f.chainId actual))
  recovers : outcome ≠ .error (.signerContext .recovery)

variable {σ : Type} {f : Factory} {signer : Signer} {args : TxArgs} {chain : Chain σ} {s : σ}
  {tx : SignedTx} {b : Price}

/-- A transaction that is handed out names its chain, and its signature gives the signer away. -/
theorem bound_of_signedTx (h : ((f.signedTx signer args).hold chain s).result = .ok tx) :
    tx.envelope.chainId = some (args.chainId.getD f.chainId) ∧
      tx.recover? = some signer.address := by
  obtain ⟨hunchecked, hvalidate⟩ := unchecked_of_signedTx h
  obtain ⟨⟨answers, -, hsourced, -⟩, hsender, -⟩ := madeFrom_of_uncheckedTx hunchecked
  rw [← hsender]
  exact ⟨hsourced.chainId, (SignedTx.valid_of_validate hvalidate).sender⟩

/-- At home the transaction becomes a message. -/
theorem exists_chainMessage_of_home
    (hsigned : ((f.signedTx signer args).hold chain s).result = .ok tx)
    (hreply : (chain.answer .baseFee ((f.signedTx signer args).hold chain s).state).1 = .ok b)
    (hhome : args.chainId = none ∨ args.chainId = some f.chainId) :
    ∃ m, ((f.chainMessage signer args).hold chain s).result = .ok m ∧
      m.Shows signer.address tx.envelope (some b) := by
  obtain ⟨hchain, hrecover⟩ := bound_of_signedTx hsigned
  have hcovers : (⟨f.chainId⟩ : SignerContext).Covers tx.envelope := by
    right
    rw [hchain]
    rcases hhome with h | h <;> rw [h] <;> rfl
  have hsender := SignerContext.sender_eq_ok_iff.2 ⟨hcovers, hrecover⟩
  obtain ⟨m, hm, hshows⟩ := SignedTx.exists_toMessage_of_sender hsender (some b)
  refine ⟨m, ?_, hshows⟩
  rw [(hold_chainMessage_of_answer hsigned hreply).1, hm]
  rfl

/-- Abroad it does not, though it is valid there. -/
theorem chainMessage_of_foreign {actual : ChainId}
    (hsigned : ((f.signedTx signer args).hold chain s).result = .ok tx)
    (hreply : (chain.answer .baseFee ((f.signedTx signer args).hold chain s).state).1 = .ok b)
    (hset : args.chainId = some actual) (hne : actual ≠ f.chainId) :
    ((f.chainMessage signer args).hold chain s).result =
      .error (.signerContext (.chainIdMismatch f.chainId actual)) := by
  have hchain : tx.envelope.chainId = some actual := by
    rw [(bound_of_signedTx hsigned).1, hset]
    rfl
  have hsender : (⟨f.chainId⟩ : SignerContext).sender tx =
      .error (.chainIdMismatch f.chainId actual) := SignerContext.sender_of_foreign hchain hne
  rw [(hold_chainMessage_of_answer hsigned hreply).1, SignedTx.toMessage_of_error hsender]
  rfl

theorem converts_chainMessage (f : Factory) (signer : Signer) (args : TxArgs) (chain : Chain σ)
    (s : σ) :
    f.Converts signer.address args ((f.signedTx signer args).hold chain s).result
      (chain.answer .baseFee ((f.signedTx signer args).hold chain s).state).1
      ((f.chainMessage signer args).hold chain s).result := by
  cases hsigned : ((f.signedTx signer args).hold chain s).result with
  | error e =>
    have hstage := (stage_signedTx hsigned).2
    rw [(hold_chainMessage_of_error hsigned).1]
    refine ⟨by simp, by simp, by simp, ?_⟩
    rintro ⟨⟩
    exact hstage rfl
  | ok tx =>
    cases hreply : (chain.answer .baseFee ((f.signedTx signer args).hold chain s).state).1 with
    | error failure =>
      rw [(hold_chainMessage_of_failure hsigned hreply).1]
      exact ⟨by simp, by simp, by simp, by simp⟩
    | ok b =>
      rcases ChainId.home_or_foreign args.chainId f.chainId with hhome | ⟨actual, hset, hne⟩
      · obtain ⟨m, hm, hshows⟩ := exists_chainMessage_of_home hsigned hreply hhome
        rw [hm]
        refine ⟨iff_of_true ⟨m, rfl⟩ ⟨⟨tx, rfl⟩, ⟨b, rfl⟩, hhome⟩, ?_, ?_, by simp⟩
        · rintro m' ⟨⟩
          exact ⟨tx, b, rfl, rfl, hshows⟩
        · intro tx' b' actual _ _ hset hne
          rcases hhome with h | h
          · rw [h] at hset
            cases hset
          · rw [h] at hset
            cases hset
            exact absurd rfl hne
      · rw [chainMessage_of_foreign hsigned hreply hset hne]
        refine ⟨by simp [hset, hne], by simp, ?_, by simp⟩
        intro tx' b' actual' _ _ hset' _
        rw [hset] at hset'
        cases hset'
        rfl

/-- A fee cap that was filled in at the same base fee is what is paid. -/
theorem gasPrice_eq_feeCap {answers : Answers} {sender : Address} {e : Envelope} {m : ChainMessage}
    (hsourced : f.Sourced sender answers args e) (hprice : args.gasPrice = none)
    (hcap : args.maxFeePerGas = none)
    (hshows : m.Shows sender e (some (answers .baseFee))) :
    m.gasPrice = m.feeCap ∧
      m.feeCap.toNat = min ((answers .baseFee).toNat + m.tipCap.toNat) (2 ^ 128 - 1) := by
  have htip := hsourced.tip hprice
  have hfilled := hsourced.defaultedFeeCap hprice hcap _ htip
  have hpaid := hshows.dynamicPrice _ htip _ rfl
  rw [hshows.feeCap, hshows.tipCap _ htip]
  refine ⟨BitVec.eq_of_toNat_eq ?_, hfilled⟩
  rw [hpaid, hfilled]
  exact Nat.min_eq_left (Nat.min_le_left _ _)

/-- The base fee that is met on the way to a transaction is the one that its fee cap was filled in
with. -/
theorem exists_sourced_of_signedTx
    (hsigned : ((f.signedTx signer args).hold chain s).result = .ok tx)
    (hasked : .asked .baseFee (.ok b) ∈ ((f.signedTx signer args).hold chain s).transcript) :
    ∃ answers, answers .baseFee = b ∧ f.Sourced signer.address answers args tx.envelope := by
  obtain ⟨⟨answers, hg, hsourced, -⟩, -⟩ :=
    madeFrom_of_uncheckedTx (unchecked_of_signedTx hsigned).1
  have hfees : ¬ args.MixesFees := by
    intro hmixes
    rw [f.signedTx_of_refused signer (typeFor_of_mixesFees hmixes).2] at hsigned
    cases hsigned
  have hqueries := (f.asks_signedTx signer ((foreignField?_typeFor args).2 hfees)).queries_of_ok
    (f.nodup_plan _ _ _) hsigned
  have hreply := Dialogue.reply_of_gives (x := (f.signedTx signer args).run)
    (by rw [← Operation.hold, hqueries]; exact hg) hasked
  exact ⟨answers, (Except.ok.inj hreply).symm, hsourced⟩

/-- **When a factory hands out a message, and what it says.**  If the caller leaves price and fee
cap open, and the chain has the same base fee when it is asked again, then the fee cap is what is
paid, also where the fee cap is the greatest there is and falls short of base fee and tip. -/
theorem converted_of_chainMessage (f : Factory) (signer : Signer) (args : TxArgs)
    (chain : Chain σ) (s : σ) :
    let signed := (f.signedTx signer args).hold chain s
    let reply := (chain.answer .baseFee signed.state).1
    let outcome := ((f.chainMessage signer args).hold chain s).result
    f.Converts signer.address args signed.result reply outcome ∧
      ∀ m b, outcome = .ok m → args.gasPrice = none → args.maxFeePerGas = none →
        .asked .baseFee (.ok b) ∈ signed.transcript → reply = .ok b →
          m.gasPrice = m.feeCap ∧
            m.feeCap.toNat = min (b.toNat + m.tipCap.toNat) (2 ^ 128 - 1) := by
  intro signed reply outcome
  have hconverts : f.Converts signer.address args signed.result reply outcome :=
    f.converts_chainMessage signer args chain s
  refine ⟨hconverts, fun m b hm hprice hcap hasked hreply => ?_⟩
  obtain ⟨tx, b', hsigned, hreply', hshows⟩ := hconverts.shows m hm
  rw [hreply] at hreply'
  cases hreply'
  obtain ⟨answers, rfl, hsourced⟩ := exists_sourced_of_signedTx hsigned hasked
  exact gasPrice_eq_feeCap hsourced hprice hcap hshows

set_option maxRecDepth 100000 in
/-- The highest base fee and tip that there are, on the chain that the caller names and on
another. -/
theorem converted_of_highest_fees :
    let signer : Signer := ⟨⟨1, by decide, by decide⟩, none⟩
    let args : TxArgs := { chainId := some 1 }
    let chain := Chain.uniform (2 ^ 128 - 1)
    (∃ m, (((⟨1, {}⟩ : Factory).chainMessage signer args).hold chain ()).result = .ok m ∧
      m.gasPrice = m.feeCap ∧ m.feeCap.toNat = 2 ^ 128 - 1) ∧
    (((⟨2, {}⟩ : Factory).chainMessage signer args).hold chain ()).result =
      .error (.signerContext (.chainIdMismatch 2 1)) := by
  intro signer args chain
  let highest (width : Nat) : BitVec width := BitVec.ofNat width (2 ^ 128 - 1)
  -- one transaction, whichever chain the factory is for
  let tx : UnsignedTx := .dynamicFee ⟨1, highest 64, highest 128,
    saturated 128 ((highest 128).toNat + (highest 128).toNat), highest 64, none, 0, [], []⟩
  have hrecovers : signer.key.Recovers tx.envelope.signingHash := by
    show (Key.sign _ _).recover? _ = some (Key.address _)
    decide +kernel
  have hsigned (here : ChainId) :
      ∃ tx, (((⟨here, {}⟩ : Factory).signedTx signer args).hold chain ()).result = .ok tx := by
    refine signedTx_of_accepts ⟨by simp [args, TxArgs.MixesFees], _, Chain.gives_uniform _ _,
      .inl rfl, ?_⟩ fun bare hbare => ?_
    · show tx.envelope.Payable
      exact ⟨by decide, by rintro _ ⟨⟩; decide, by decide⟩
    · have hbare : tx = bare := Except.ok.inj hbare
      exact hbare ▸ hrecovers
  obtain ⟨home, hhome⟩ := hsigned 1
  obtain ⟨abroad, habroad⟩ := hsigned 2
  obtain ⟨hconverts, hprice⟩ := converted_of_chainMessage ⟨1, {}⟩ signer args chain ()
  obtain ⟨m, hm⟩ := hconverts.succeeds.2 ⟨⟨home, hhome⟩, ⟨_, rfl⟩, .inr rfl⟩
  have hasked : .asked .baseFee (.ok (highest 128)) ∈
      (((⟨1, {}⟩ : Factory).signedTx signer args).hold chain ()).transcript := by
    rw [transcript_signedTx]
    exact List.mem_append_left _ (.tail _ (.tail _ (.tail _ (.tail _ (.head _)))))
  obtain ⟨hpaid, hcap⟩ := hprice m _ hm rfl rfl hasked rfl
  refine ⟨⟨m, hm, hpaid, ?_⟩, ?_⟩
  · rw [hcap]
    exact Nat.min_eq_right (Nat.le_add_right_of_le (by decide))
  · exact (converted_of_chainMessage ⟨2, {}⟩ signer args chain ()).1.foreign abroad _ 1 habroad rfl
      rfl (by decide)

end Factory
end TxForge
