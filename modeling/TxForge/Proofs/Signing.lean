import TxForge.Signed

/-!
# Signing a transaction that is bound to a chain

A transaction with a chain id is signed as it stands.  The signer may refuse it, for being bound to
another chain, but it never changes it, so the envelope that is signed, the one that is stored and
the chain id on record all describe the same transaction.

Nothing is proved here about the signatures themselves.  `Key.Recovers` names what is asked of them:
a fresh signature over a digest gives the address of its key away.
-/

set_option autoImplicit false

namespace TxForge

/-- A fresh signature over the digest gives the key's address away. -/
def Key.Recovers (key : Key) (digest : Word) : Prop :=
  (key.sign digest).recover? digest = some key.address

/-- The signer is bound to no chain, or to this one. -/
def Signer.Admits (signer : Signer) (chainId : ChainId) : Prop :=
  signer.chainId = none ∨ signer.chainId = some chainId

theorem Signer.not_admits_iff {signer : Signer} {chainId : ChainId} :
    ¬ signer.Admits chainId ↔ ∃ own, signer.chainId = some own ∧ own ≠ chainId := by
  rw [Admits]
  cases signer.chainId <;> simp

namespace UnsignedTx

variable {tx : UnsignedTx} {signer : Signer} {chainId : ChainId}

theorem boundFor_eq_ok (h : tx.envelope.chainId = some chainId) (hs : signer.Admits chainId) :
    tx.boundFor signer = .ok tx := by
  rw [boundFor]
  rcases hs with hs | hs
  · rw [hs]
  · simp [hs, h]

/-- **A signer that admits the chain signs the transaction as it stands.** -/
theorem sign_eq_ok (h : tx.envelope.chainId = some chainId) (hs : signer.Admits chainId) :
    tx.sign signer = .ok {
      envelope := tx.envelope
      signature := signer.key.sign tx.envelope.signingHash
      sender := signer.address
      chainId } := by
  rw [sign, boundFor_eq_ok h hs, h]
  rfl

/-- What is signed is the transaction, on record for its chain, and with a signature that gives the
sender on record away. -/
theorem exists_sign_eq_ok (h : tx.envelope.chainId = some chainId) (hs : signer.Admits chainId) :
    ∃ signed, tx.sign signer = .ok signed ∧ signed.envelope = tx.envelope ∧
      signed.envelope.chainId = some signed.chainId ∧
        (signer.key.Recovers signed.envelope.signingHash →
          signed.recover? = some signed.sender) :=
  ⟨_, sign_eq_ok h hs, rfl, h, fun hrecovers => hrecovers⟩

/-- A signer that is bound to another chain refuses. -/
theorem sign_eq_error {own : ChainId} (h : tx.envelope.chainId = some chainId)
    (hown : signer.chainId = some own) (hne : own ≠ chainId) :
    tx.sign signer = .error (.chainMismatch chainId own) := by
  have hbound : tx.boundFor signer = .error (.chainMismatch chainId own) := by
    simp [boundFor, hown, h, hne.symm]
  rw [sign, hbound]
  rfl

/-- What a signer makes of a transaction that is bound to a chain, if it signs it. -/
theorem eq_of_sign_eq_ok {signed : SignedTx} (h : tx.envelope.chainId = some chainId)
    (hsigned : tx.sign signer = .ok signed) :
    signer.Admits chainId ∧ signed.envelope = tx.envelope ∧ signed.sender = signer.address ∧
      signed.chainId = chainId := by
  by_cases hs : signer.Admits chainId
  · rw [sign_eq_ok h hs] at hsigned
    cases hsigned
    exact ⟨hs, rfl, rfl, rfl⟩
  · obtain ⟨own, hown, hne⟩ := Signer.not_admits_iff.1 hs
    rw [sign_eq_error h hown hne] at hsigned
    cases hsigned

end UnsignedTx
end TxForge
