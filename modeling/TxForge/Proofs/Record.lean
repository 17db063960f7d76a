import TxForge.Factory
import TxForge.Proofs.Signing
import TxForge.Proofs.Validation

/-!
# What signing puts on record

Beside the envelope and its signature a signed transaction keeps two things, its sender and its
chain, and validation compares both with what the other two say.  This file is about transactions
that come straight from a signer, with a record that nobody had a chance to change.

* `SignedTx.MadeBy` — the signature over the envelope is the signer's, and so is the address on
  record.  This holds of everything that is signed (`UnsignedTx.exists_bound_of_sign`).
* `SignedTx.Keeps`, `UnsignedTx.lawful_of_sign` — a transaction that names a chain.  It is signed as
  it stands, the chain on record is its own, and validation is left with numbers to object to.
* `Signer.Misfiles`, `UnsignedTx.recorded_of_sign` — any transaction.  The chain on record is read
  before the signer sees the transaction, and a signer that is bound to a chain gives it to a
  transaction that names none.  So envelope and record can come from two versions of the
  transaction, and in one case the two name different chains.

What is asked of signatures is `Key.Recovers`, and only where validation has to recover a sender.
The chain is compared before that.
-/

set_option autoImplicit false

namespace TxForge

/-- The error is about a number of the transaction, not about its chain or its signature. -/
def ValidationError.IsNumeric : ValidationError → Prop
  | .gasLimitBelowIntrinsic _ | .tipAboveFeeCap .. | .costOverflow => True
  | .chainIdMismatch .. | .invalidSignature | .senderMismatch .. => False

theorem Envelope.Objection.isNumeric {e : Envelope} {v : ValidationError} (h : e.Objection v) :
    v.IsNumeric := by
  cases h <;> trivial

namespace SignedTx

variable {tx : SignedTx} {signer : Signer}

/-! ## A record that is right -/

/-- If the record is right, validation comes down to numbers. -/
theorem validate_eq_ok_iff_payable (hchain : tx.envelope.chainId = some tx.chainId)
    (hrecover : tx.recover? = some tx.sender) : tx.validate = .ok () ↔ tx.envelope.Payable :=
  ⟨fun h => (valid_of_validate h).payable, fun h => validate_of_valid ⟨h, hchain, hrecover⟩⟩

theorem objection_of_validate (hchain : tx.envelope.chainId = some tx.chainId)
    (hrecover : tx.recover? = some tx.sender) {v : ValidationError}
    (h : tx.validate = .error v) : tx.envelope.Objection v := by
  cases fault_of_validate h with
  | numbers hobjection => exact hobjection
  | chainId _ hne => exact absurd hchain hne
  | signature _ _ hnone =>
    rw [recover?, hnone] at hrecover
    cases hrecover
  | sender _ _ hrecovered hne =>
    rw [recover?, hrecovered] at hrecover
    exact absurd (Option.some.inj hrecover) hne

/-- A chain that does not match is found only where the record is wrong. -/
theorem chainId_ne_of_chainIdMismatch {expected : ChainId} {actual : Option ChainId}
    (h : tx.validate = .error (.chainIdMismatch expected actual)) :
    tx.envelope.chainId ≠ some tx.chainId := by
  cases fault_of_validate h with
  | numbers hobjection => exact hobjection.isNumeric.elim
  | chainId _ hne => exact hne

/-- The signature is the signer's, and so is the address on record. -/
structure MadeBy (tx : SignedTx) (signer : Signer) : Prop where
  signature : tx.signature = signer.key.sign tx.envelope.signingHash
  sender : tx.sender = signer.address

theorem MadeBy.recover (h : tx.MadeBy signer)
    (hkey : signer.key.Recovers tx.envelope.signingHash) : tx.recover? = some tx.sender := by
  rw [recover?, h.signature, h.sender]
  exact hkey

/-- The transaction that was signed, as it stood, with a record that is right. -/
structure Keeps (signed : SignedTx) (tx : UnsignedTx) (signer : Signer) : Prop where
  txType : signed.envelope.txType = tx.supportedType.toTxType
  envelope : signed.envelope = tx.envelope
  chainId : tx.envelope.chainId = some signed.chainId
  madeBy : signed.MadeBy signer

end SignedTx

/-- The signer gives the transaction a chain that does not come on record: the transaction names
none, and the signer is bound to one other than chain zero. -/
def Signer.Misfiles (signer : Signer) (tx : UnsignedTx) : Prop :=
  tx.envelope.chainId = none ∧ ∃ own, signer.chainId = some own ∧ own ≠ 0

namespace UnsignedTx

variable {tx bound : UnsignedTx} {signer : Signer} {signed : SignedTx} {chainId : ChainId}

theorem txType_envelope (tx : UnsignedTx) : tx.envelope.txType = tx.supportedType.toTxType := by
  cases tx <;> rfl

/-! ## Transactions that name a chain -/

theorem exists_keeps_of_admits (h : tx.envelope.chainId = some chainId)
    (hs : signer.Admits chainId) :
    ∃ signed, tx.sign signer = .ok signed ∧ signed.chainId = chainId ∧ signed.Keeps tx signer :=
  ⟨_, sign_eq_ok h hs, rfl, tx.txType_envelope, rfl, h, rfl, rfl⟩

/-- The one error there is names both chains. -/
theorem sign_eq_error_iff (h : tx.envelope.chainId = some chainId) (e : SigningError) :
    tx.sign signer = .error e ↔
      ∃ own, signer.chainId = some own ∧ own ≠ chainId ∧ e = .chainMismatch chainId own := by
  constructor
  · intro he
    by_cases hs : signer.Admits chainId
    · rw [sign_eq_ok h hs] at he
      cases he
    · obtain ⟨own, hown, hne⟩ := Signer.not_admits_iff.1 hs
      rw [sign_eq_error h hown hne] at he
      cases he
      exact ⟨own, hown, hne, rfl⟩
  · rintro ⟨own, hown, hne, rfl⟩
    exact sign_eq_error h hown hne

/-- **Signing a transaction that names a chain.**  A signer that is bound to another chain refuses.
Every other signs the transaction as it stands and puts its chain and its own address on record, and
nothing is left that validation could object to but gas limit, tip and cost. -/
theorem lawful_of_sign (tx : UnsignedTx) (signer : Signer) {chainId : ChainId}
    (h : tx.envelope.chainId = some chainId) :
    (∀ e, tx.sign signer = .error e ↔
      ∃ own, signer.chainId = some own ∧ own ≠ chainId ∧ e = .chainMismatch chainId own) ∧
    ((¬ ∃ own, signer.chainId = some own ∧ own ≠ chainId) →
      ∃ signed, tx.sign signer = .ok signed ∧ signed.chainId = chainId ∧ signed.Keeps tx signer ∧
        (signer.key.Recovers tx.envelope.signingHash →
          (signed.validate = .ok () ↔ tx.envelope.Payable) ∧
            ∀ v, signed.validate = .error v → tx.envelope.Objection v ∧ v.IsNumeric)) := by
  refine ⟨sign_eq_error_iff h, ?_⟩
  intro hown
  have hs : signer.Admits chainId :=
    Classical.byContradiction fun hs => hown (Signer.not_admits_iff.1 hs)
  obtain ⟨signed, hsigned, hrecord, hkeeps⟩ := exists_keeps_of_admits h hs
  refine ⟨signed, hsigned, hrecord, hkeeps, ?_⟩
  intro hkey
  have hchain : signed.envelope.chainId = some signed.chainId := by
    rw [hkeeps.envelope]
    exact hkeeps.chainId
  rw [← hkeeps.envelope] at hkey ⊢
  have hrecover := hkeeps.madeBy.recover hkey
  refine ⟨SignedTx.validate_eq_ok_iff_payable hchain hrecover, ?_⟩
  intro v hv
  have hobjection := SignedTx.objection_of_validate hchain hrecover hv
  exact ⟨hobjection, hobjection.isNumeric⟩

set_option maxRecDepth 100000 in
/-- One transaction, in the hands of a signer for its chain and of a signer for another. -/
theorem lawful_of_two_signers :
    let key : Key := ⟨1, by decide, by decide⟩
    let tx : UnsignedTx := .dynamicFee ⟨1, 0, 1, 2, 21000, none, 0, [], []⟩
    (∃ signed, tx.sign ⟨key, some 1⟩ = .ok signed ∧ signed.Keeps tx ⟨key, some 1⟩ ∧
      signed.validate = .ok ()) ∧
    tx.sign ⟨key, some 2⟩ = .error (.chainMismatch 1 2) := by
  intro key tx
  have hkey : key.Recovers tx.envelope.signingHash := by
    show (Key.sign _ _).recover? _ = some (Key.address _)
    decide +kernel
  have hpayable : tx.envelope.Payable := ⟨by decide, by rintro _ ⟨⟩; decide, by decide⟩
  obtain ⟨-, hsigns⟩ := lawful_of_sign tx ⟨key, some 1⟩ rfl
  obtain ⟨hrefuses, -⟩ := lawful_of_sign tx ⟨key, some 2⟩ rfl
  obtain ⟨signed, hsigned, -, hkeeps, hvalidate⟩ := hsigns (by simp)
  exact ⟨⟨signed, hsigned, hkeeps, (hvalidate hkey).1.2 hpayable⟩,
    (hrefuses _).2 ⟨2, rfl, by decide, rfl⟩⟩

/-! ## Transactions that may name none -/

/-- What is signed is the transaction as the signer binds it, and on record is the chain that it
had before. -/
theorem exists_bound_of_sign (h : tx.sign signer = .ok signed) :
    ∃ bound, tx.boundFor signer = .ok bound ∧ signed.envelope = bound.envelope ∧
      signed.chainId = tx.envelope.chainId.getD 0 ∧ signed.MadeBy signer := by
  rw [sign] at h
  cases hbound : tx.boundFor signer with
  | error e =>
    rw [hbound] at h
    cases h
  | ok bound =>
    rw [hbound] at h
    cases h
    exact ⟨bound, rfl, rfl, rfl, rfl, rfl⟩

/-- A transaction that names no chain gets that of its signer, if there is one. -/
theorem chainId_boundFor_of_open (hopen : tx.envelope.chainId = none)
    (h : tx.boundFor signer = .ok bound) : bound.envelope.chainId = signer.chainId := by
  rw [boundFor, hopen] at h
  cases hown : signer.chainId with
  | none =>
    rw [hown] at h
    cases h
    exact hopen
  | some own =>
    rw [hown] at h
    cases h
    -- only a legacy transaction can do without a chain
    cases tx with
    | legacy tx =>
      have hopen : tx.chainId = none := hopen
      simp [bindChain, UnsignedTx.envelope, Envelope.chainId, hopen]
    | accessList tx => cases hopen
    | dynamicFee tx => cases hopen

/-- It is put on record for chain zero, whoever signs it. -/
theorem chainId_of_sign_open (hopen : tx.envelope.chainId = none)
    (h : tx.sign signer = .ok signed) :
    signed.envelope.chainId = signer.chainId ∧ signed.chainId = 0 := by
  obtain ⟨bound, hbound, henvelope, hrecord, -⟩ := exists_bound_of_sign h
  rw [henvelope, hrecord, hopen]
  exact ⟨chainId_boundFor_of_open hopen hbound, rfl⟩

/-- Unless it is misfiled, a transaction is on record for the chain that it is signed for. -/
theorem chainId_eq_of_not_misfiles (hsigned : tx.sign signer = .ok signed)
    (hfiled : ¬ signer.Misfiles tx) (h : signed.envelope.chainId = some chainId) :
    signed.chainId = chainId := by
  cases hopen : tx.envelope.chainId with
  | some named =>
    obtain ⟨-, henvelope, -, hrecord⟩ := eq_of_sign_eq_ok hopen hsigned
    rw [henvelope, hopen] at h
    rw [hrecord]
    exact Option.some.inj h
  | none =>
    obtain ⟨hown, hrecord⟩ := chainId_of_sign_open hopen hsigned
    rw [hown] at h
    -- the signer gave it its own chain, which can only be the one on record
    have hzero : chainId = 0 :=
      Classical.byContradiction fun hne => hfiled ⟨hopen, chainId, h, hne⟩
    rw [hrecord, hzero]

/-- **The chain on record is the one that is signed, unless the transaction is misfiled.**  Then the
signature is over an envelope for the chain of the signer, the record says another, and validation
refuses the transaction for it. -/
theorem recorded_of_sign (tx : UnsignedTx) (signer : Signer)
    (hsigned : tx.sign signer = .ok signed) :
    signed.MadeBy signer ∧
    (¬ signer.Misfiles tx → ∀ chainId, signed.envelope.chainId = some chainId →
      signed.chainId = chainId ∧
        ∀ expected actual, signed.validate ≠ .error (.chainIdMismatch expected actual)) ∧
    (signer.Misfiles tx → ∃ own, signed.envelope.chainId = some own ∧ own ≠ signed.chainId ∧
      (signed.envelope.Payable →
        signed.validate = .error (.chainIdMismatch signed.chainId (some own)))) := by
  obtain ⟨-, -, -, -, hmade⟩ := exists_bound_of_sign hsigned
  refine ⟨hmade, ?_, ?_⟩
  · intro hfiled chainId h
    have hrecord := chainId_eq_of_not_misfiles hsigned hfiled h
    refine ⟨hrecord, ?_⟩
    intro expected actual hmismatch
    rw [← hrecord] at h
    exact SignedTx.chainId_ne_of_chainIdMismatch hmismatch h
  · rintro ⟨hopen, own, hown, hne⟩
    obtain ⟨henvelope, hrecord⟩ := chainId_of_sign_open hopen hsigned
    rw [hown] at henvelope
    rw [← hrecord] at hne
    refine ⟨own, henvelope, hne, ?_⟩
    intro hpayable
    rw [← henvelope]
    refine SignedTx.validate_of_fault (.chainId hpayable ?_)
    rw [henvelope]
    simpa using hne

/-- The same transfer with a chain and without one, in the hands of a signer for that chain. -/
theorem recorded_of_transfers :
    let signer : Signer := ⟨⟨1, by decide, by decide⟩, some 9000⟩
    let transfer (chainId : Option ChainId) : UnsignedTx :=
      .legacy ⟨chainId, 0, 1, 21000, none, 0, []⟩
    (∃ signed, (transfer (some 9000)).sign signer = .ok signed ∧ signed.chainId = 9000) ∧
    ∃ signed, (transfer none).sign signer = .ok signed ∧
      signed.validate = .error (.chainIdMismatch 0 (some 9000)) := by
  intro signer transfer
  have hpayable : (transfer (some 9000)).envelope.Payable :=
    ⟨by decide, by rintro _ ⟨⟩, by decide⟩
  obtain ⟨-, hfiled, -⟩ := recorded_of_sign (transfer (some 9000)) signer rfl
  obtain ⟨-, -, hmisfiled⟩ := recorded_of_sign (transfer none) signer rfl
  obtain ⟨own, henvelope, -, hvalidate⟩ := hmisfiled ⟨rfl, 9000, rfl, by decide⟩
  cases henvelope
  refine ⟨⟨_, rfl, (hfiled (fun h => ?_) 9000 rfl).1⟩, _, rfl, hvalidate hpayable⟩
  cases h.1

/-- A transfer that names no chain, in the hands of a signer for chain 9000. -/
theorem record_misses_signed_chain :
    let key : Key := ⟨0x7726827caac94a7f9e1b160f7ea819f172f7b6f9d2a97f992c38edeab82d4110,
      by decide, by decide⟩
    let signer : Signer := ⟨key, some 9000⟩
    let tx : UnsignedTx :=
      .legacy ⟨none, 3, 1000000000, 21000, some (FixedBytes.ofNat 20 0xdead), 1000, []⟩
    ∃ signed, tx.sign signer = .ok signed ∧ Factory.sign signer tx = .ok signed ∧
      signed.envelope.chainId = some 9000 ∧ signed.chainId = 0 ∧
        signed.validate = .error (.chainIdMismatch 0 (some 9000)) := by
  intro key signer tx
  refine ⟨_, rfl, rfl, rfl, rfl, SignedTx.validate_of_fault (.chainId ?_ (by decide))⟩
  exact ⟨by decide, by rintro _ ⟨⟩, by decide⟩

end UnsignedTx
end TxForge
