import TxForge.Proofs.Messages

/-!
# Two ways to accept a transaction

A signed transaction is accepted by validation, and by the signer contexts of chains.  Neither knows
of the other, and they disagree on two things.

* The sender.  Validation compares the one on record with the one that the signature gives away; a
  context has no record and takes the latter.
* A transaction that names no chain.  No chain id on record makes it valid, while every context
  takes it.

`SignedTx.TakenBy` and `SignedTx.LeftBy` are the two things that a context can do with a
transaction, on its own and for a message at any base fee.  What validation accepts is taken by
exactly one context, that of the chain on record, and the sender is the one on record
(`SignedTx.agreed_of_acceptance`).
-/

set_option autoImplicit false

namespace TxForge
namespace SignedTx

/-- The context names the sender, also for a message at any base fee. -/
structure TakenBy (tx : SignedTx) (context : SignerContext) (address : Address) : Prop where
  sender : context.sender tx = .ok address
  message : ∀ baseFee, ∃ m, tx.toMessage context baseFee = .ok m ∧ m.sender = address

/-- The context has this against the transaction, and so against every message of it. -/
structure LeftBy (tx : SignedTx) (context : SignerContext) (e : SignerContextError) : Prop where
  sender : context.sender tx = .error e
  message : ∀ baseFee, tx.toMessage context baseFee = .error e

variable {tx : SignedTx} {context : SignerContext}

theorem takenBy_of_covers {address : Address} (hcovers : context.Covers tx.envelope)
    (hrecover : tx.recover? = some address) : tx.TakenBy context address := by
  have hsender := SignerContext.sender_eq_ok_iff.2 ⟨hcovers, hrecover⟩
  refine ⟨hsender, fun baseFee => ?_⟩
  obtain ⟨m, hm, hshows⟩ := exists_toMessage_of_sender hsender baseFee
  exact ⟨m, hm, hshows.sender⟩

theorem leftBy_of_foreign {actual : ChainId} (h : tx.envelope.chainId = some actual)
    (hne : actual ≠ context.chainId) :
    tx.LeftBy context (.chainIdMismatch context.chainId actual) :=
  ⟨SignerContext.sender_of_foreign h hne,
    toMessage_of_error (SignerContext.sender_of_foreign h hne)⟩

/-- A valid transaction is taken on its own chain. -/
theorem Valid.takenBy (h : tx.Valid) : tx.TakenBy ⟨tx.chainId⟩ tx.sender :=
  takenBy_of_covers (.inr h.chainId) h.sender

/-- It is left on every other. -/
theorem Valid.leftBy (h : tx.Valid) (hne : context.chainId ≠ tx.chainId) :
    tx.LeftBy context (.chainIdMismatch context.chainId tx.chainId) :=
  leftBy_of_foreign h.chainId hne.symm

/-- A transaction that names no chain is never valid. -/
theorem Valid.chainId_ne_none (h : tx.Valid) : tx.envelope.chainId ≠ none := by
  rw [h.chainId]
  simp

/-- **Where validation and the contexts agree, and where they do not.**  A context takes a
transaction that is bound to its chain or to none, and names whom the signature gives away.  So
what is valid is taken on the chain on record and on no other, from the sender on record; and what
names no chain is taken on all of them, though it is valid on none. -/
theorem agreed_of_acceptance (tx : SignedTx) :
    (∀ (context : SignerContext) (address : Address), context.sender tx = .ok address ↔
      (tx.envelope.chainId = none ∨ tx.envelope.chainId = some context.chainId) ∧
        tx.recover? = some address) ∧
    (tx.validate = .ok () → tx.TakenBy ⟨tx.chainId⟩ tx.sender ∧
      ∀ chainId, chainId ≠ tx.chainId →
        tx.LeftBy ⟨chainId⟩ (.chainIdMismatch chainId tx.chainId)) ∧
    (tx.envelope.chainId = none →
      (∀ address, tx.recover? = some address → ∀ context, tx.TakenBy context address) ∧
        ∀ chainId, { tx with chainId }.validate ≠ .ok ()) := by
  refine ⟨fun context address => SignerContext.sender_eq_ok_iff, fun hvalidate => ?_,
    fun hopen => ⟨fun address hrecover context => ?_, fun chainId hvalidate => ?_⟩⟩
  · have hvalid := valid_of_validate hvalidate
    exact ⟨hvalid.takenBy, fun chainId hne => hvalid.leftBy hne⟩
  · exact takenBy_of_covers (.inl hopen) hrecover
  · exact (valid_of_validate hvalidate).chainId_ne_none hopen

set_option maxRecDepth 100000 in
/-- A transfer on the first chain, and the same transfer open to all chains. -/
theorem agreed_of_transfers :
    let key : Key := ⟨1, by decide, by decide⟩
    let transfer (chainId : Option ChainId) : SignedTx :=
      let envelope : Envelope := .legacy ⟨chainId, 0, 1, 21000, none, 0, []⟩
      ⟨envelope, key.sign envelope.signingHash, key.address, chainId.getD 0⟩
    let bound := transfer (some 1)
    let unbound := transfer none
    (bound.validate = .ok () ∧ bound.TakenBy ⟨1⟩ key.address ∧
      bound.LeftBy ⟨2⟩ (.chainIdMismatch 2 1)) ∧
    (unbound.recover? = some key.address ∧ unbound.TakenBy ⟨1⟩ key.address ∧
      unbound.TakenBy ⟨2⟩ key.address ∧ unbound.validate ≠ .ok ()) := by
  intro key transfer bound unbound
  have hbound : bound.recover? = some key.address := by
    show (Key.sign _ _).recover? _ = some (Key.address _)
    decide +kernel
  have hunbound : unbound.recover? = some key.address := by
    show (Key.sign _ _).recover? _ = some (Key.address _)
    decide +kernel
  have hvalid : bound.validate = .ok () :=
    validate_of_valid ⟨⟨by decide, by rintro _ ⟨⟩, by decide⟩, rfl, hbound⟩
  obtain ⟨-, hown, -⟩ := agreed_of_acceptance bound
  obtain ⟨-, -, hopen⟩ := agreed_of_acceptance unbound
  obtain ⟨htaken, hleft⟩ := hown hvalid
  obtain ⟨hall, hnever⟩ := hopen rfl
  exact ⟨⟨hvalid, htaken, hleft 2 (by decide)⟩, hunbound, hall _ hunbound ⟨1⟩,
    hall _ hunbound ⟨2⟩, hnever 0⟩

end SignedTx
end TxForge
