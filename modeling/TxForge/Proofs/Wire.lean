import Mathlib.Data.Set.Function
import TxForge.Message
import TxForge.Proofs.UniqueReading

/-!
# What the bytes of a transaction tell

Two strings of bytes are made of a transaction: the one that is hashed to be signed, and the one
that is sent.  Both put the byte of the type in front and list the fields behind it, so they have
most of the way back in common.  They are read back below `Rlp.lengthLimit`, which is to say always:
a string in memory has a 64-bit length.

* `Envelope.tagged_inj` — type and listed items are told apart by the bytes.
* `Envelope.eq_of_fieldsRlp` — the items are those of one transaction only.  The chain id of a
  legacy transaction is not among them, and the two strings differ in where they put it:
  `Envelope.chainId_of_signingTail` finds it behind the fields, `Envelope.of_parityField` in the
  number that also holds the parity.
* `Envelope.eq_of_signingPayload` and `Envelope.eq_of_encode` — what is signed, and what is sent, is
  one transaction.  Its signature alone is told at any length (`Envelope.signature_of_encode`).
* `SignedTx.committed_of_signingPayload` — so a signature is not checked against what it was made
  over once anything is altered.
* `SignedTx.determined_of_raw` — and what is sent can be decoded.
-/

set_option autoImplicit false

namespace TxForge

/-! ## Items -/

@[simp] theorem Rlp.natural_inj {m n : Nat} : Rlp.natural m = Rlp.natural n ↔ m = n := by
  rw [Rlp.natural, Rlp.natural, Rlp.bytes.injEq, Bytes.bigEndian_inj]

@[simp] theorem FixedBytes.toBytes_inj {n : Nat} {a b : FixedBytes n} :
    a.toBytes = b.toBytes ↔ a = b :=
  FixedBytes.ext_iff.symm

/-- A list of fixed byte strings is known by its items. -/
@[simp] theorem FixedBytes.map_bytes_inj {n : Nat} {as bs : List (FixedBytes n)} :
    (as.map fun a => Rlp.bytes a.toBytes) = (bs.map fun b => Rlp.bytes b.toBytes) ↔ as = bs :=
  List.map_inj_right fun a b h => by simpa using h

@[simp] theorem AccessList.toRlp_inj {as bs : AccessList} : as.toRlp = bs.toRlp ↔ as = bs := by
  rw [toRlp, toRlp, Rlp.list.injEq]
  refine List.map_inj_right fun a b h => ?_
  obtain ⟨address, keys⟩ := a
  obtain ⟨address', keys'⟩ := b
  simpa using h

@[simp] theorem Authorization.toRlp_inj {a b : Authorization} : a.toRlp = b.toRlp ↔ a = b := by
  obtain ⟨chainId, address, nonce, yParity, r, s⟩ := a
  obtain ⟨chainId', address', nonce', yParity', r', s'⟩ := b
  simp [toRlp, BitVec.toNat_inj, UInt8.toNat_inj]

@[simp] theorem Authorization.map_toRlp_inj {as bs : List Authorization} :
    as.map Authorization.toRlp = bs.map Authorization.toRlp ↔ as = bs :=
  List.map_inj_right fun _ _ => Authorization.toRlp_inj.1

theorem TxType.byte_inj {t t' : TxType} : t.byte = t'.byte ↔ t = t' := by
  refine ⟨fun h => ?_, congrArg TxType.byte⟩
  have hread := TxType.ofByte?_byte t
  rw [h, TxType.ofByte?_byte] at hread
  exact (Option.some.inj hread).symm

/-- The byte of a type is not that of the head of a list. -/
theorem TxType.startsIn_byte (t : TxType) (b : Bytes) : Rlp.StartsIn 0 192 (t.byte :: b) :=
  ⟨t.byte, b, rfl, Nat.zero_le _, by cases t <;> decide⟩

namespace Envelope

/-- Creating a contract and calling an address are told apart: no address is empty. -/
@[simp] theorem recipientRlp_inj {a b : Option Address} :
    recipientRlp a = recipientRlp b ↔ a = b := by
  have hne (address : Address) : address.toBytes ≠ [] := by
    intro hnil
    have hlength := address.length_eq
    rw [hnil] at hlength
    cases hlength
  cases a <;> cases b <;> simp [recipientRlp, hne, Ne.symm (hne _)]

/-! ## Type and items -/

variable {e e' : Envelope}

theorem tagged_eq (e : Envelope) (items : List Rlp) :
    e.tagged items =
      (if e.txType = .legacy then [] else [e.txType.byte]) ++ (Rlp.list items).encode := by
  cases e <;> rfl

/-- **The bytes tell the type of the transaction and its items.** -/
theorem tagged_inj {items items' : List Rlp} (hlen : (e.tagged items).length < Rlp.lengthLimit)
    (h : e.tagged items = e'.tagged items') : e.txType = e'.txType ∧ items = items' := by
  have hlen' := hlen
  rw [h] at hlen'
  rw [tagged_eq, List.length_append] at hlen hlen'
  rw [tagged_eq, tagged_eq] at h
  have hlist := Rlp.startsIn_encode_list items (by omega)
  have hlist' := Rlp.startsIn_encode_list items' (by omega)
  have hencode : e.txType = e'.txType ∧ (Rlp.list items).encode = (Rlp.list items').encode := by
    by_cases ht : e.txType = .legacy <;> by_cases ht' : e'.txType = .legacy
    · rw [if_pos ht, if_pos ht'] at h
      exact ⟨ht.trans ht'.symm, h⟩
    · rw [if_pos ht, if_neg ht'] at h
      exact absurd h.symm ((e'.txType.startsIn_byte _).ne hlist)
    · rw [if_neg ht, if_pos ht'] at h
      exact absurd h ((e.txType.startsIn_byte _).ne hlist')
    · rw [if_neg ht, if_neg ht', List.cons_append, List.cons_append, List.cons.injEq] at h
      exact ⟨TxType.byte_inj.1 h.1, h.2⟩
  exact ⟨hencode.1, Rlp.list.inj (Rlp.encode_inj (by omega) hencode.2)⟩

theorem length_fieldsRlp (ht : e.txType = e'.txType) :
    e.fieldsRlp.length = e'.fieldsRlp.length := by
  cases e <;> cases e' <;> cases ht <;> rfl

/-- **The items are those of one transaction**, up to the chain id of a legacy one. -/
theorem eq_of_fieldsRlp (ht : e.txType = e'.txType) (hfields : e.fieldsRlp = e'.fieldsRlp)
    (hchain : e.txType = .legacy → e.chainId = e'.chainId) : e = e' := by
  cases e <;> cases e' <;> cases ht <;> rename_i tx tx' <;> cases tx <;> cases tx'
  case legacy.legacy.refl.mk.mk =>
    have hc := hchain rfl
    simp_all [fieldsRlp, Envelope.chainId, BitVec.toNat_inj]
  all_goals simp_all [fieldsRlp, BitVec.toNat_inj]

/-! ## What is signed -/

theorem chainId_of_signingTail (ht : e.txType = e'.txType) (hlegacy : e.txType = .legacy)
    (h : e.signingTail = e'.signingTail) : e.chainId = e'.chainId := by
  cases e <;> cases hlegacy
  cases e' <;> cases ht
  rename_i tx tx'
  rw [signingTail, signingTail] at h
  rw [chainId, chainId]
  cases hc : tx.chainId <;> cases hc' : tx'.chainId <;> simp_all [BitVec.toNat_inj]

/-- **What is signed is one transaction.** -/
theorem eq_of_signingPayload (hlen : e.signingPayload.length < Rlp.lengthLimit)
    (h : e.signingPayload = e'.signingPayload) : e = e' := by
  obtain ⟨ht, hitems⟩ := tagged_inj hlen h
  obtain ⟨hfields, htail⟩ := List.append_inj hitems (length_fieldsRlp ht)
  exact eq_of_fieldsRlp ht hfields fun hlegacy => chainId_of_signingTail ht hlegacy htail

/-! ## What is sent -/

/-- The number tells the parity, and of a legacy transaction the chain id: below 35 there is none,
and from there on every chain id has two numbers of its own. -/
theorem of_parityField {odd odd' : Bool} (ht : e.txType = e'.txType)
    (h : e.parityField odd = e'.parityField odd') :
    odd = odd' ∧ (e.txType = .legacy → e.chainId = e'.chainId) := by
  have hparity : odd.toNat = odd'.toNat → odd = odd' := by
    cases odd <;> cases odd' <;> decide
  have hle := odd.toNat_le
  have hle' := odd'.toNat_le
  cases e <;> cases e' <;> cases ht
  case legacy.legacy.refl tx tx' =>
    rw [chainId, chainId]
    cases hc : tx.chainId <;> cases hc' : tx'.chainId <;> simp only [parityField, hc, hc'] at h
    case none.none => exact ⟨hparity (by omega), fun _ => rfl⟩
    case none.some => omega
    case some.none => omega
    case some.some own own' =>
      have hchain : own.toNat = own'.toNat := by omega
      exact ⟨hparity (by omega), fun _ => congrArg some (BitVec.eq_of_toNat_eq hchain)⟩
  all_goals exact ⟨hparity h, fun hlegacy => by cases hlegacy⟩

theorem parityField_lt (e : Envelope) (odd : Bool) : e.parityField odd < 2 ^ 256 := by
  have hle := odd.toNat_le
  unfold parityField
  split
  · rename_i tx
    split
    · rename_i own _
      have hown := own.isLt
      omega
    · omega
  · omega

/-- **Under one transaction there are no two signatures with the same bytes.**  No limit is needed:
the items in front of the signature are the same, and its own are short. -/
theorem signature_of_encode {sig sig' : Signature} (h : e.encode sig = e.encode sig') :
    sig = sig' := by
  rw [encode, encode, tagged_eq, tagged_eq] at h
  have hitems := Rlp.encodeAll_of_list (List.append_cancel_left h)
  rw [Rlp.encodeAll_append, Rlp.encodeAll_append] at hitems
  have hsig := List.append_cancel_left hitems
  simp only [Rlp.encodeAll] at hsig
  obtain ⟨hparity, hsig⟩ := Rlp.natural_append_inj (e.parityField_lt _) (e.parityField_lt _) hsig
  obtain ⟨hr, hsig⟩ := Rlp.natural_append_inj sig.r.isLt sig'.r.isLt hsig
  obtain ⟨hs, -⟩ := Rlp.natural_append_inj sig.s.isLt sig'.s.isLt hsig
  obtain ⟨hodd, -⟩ := of_parityField rfl hparity
  rw [Signature.mk.injEq]
  exact ⟨BitVec.eq_of_toNat_eq hr, BitVec.eq_of_toNat_eq hs, hodd⟩

/-- What is sent is one transaction with one signature. -/
theorem eq_of_encode {sig sig' : Signature} (hlen : (e.encode sig).length < Rlp.lengthLimit)
    (h : e.encode sig = e'.encode sig') : e = e' ∧ sig = sig' := by
  obtain ⟨ht, hitems⟩ := tagged_inj hlen h
  obtain ⟨hfields, hsig⟩ := List.append_inj hitems (length_fieldsRlp ht)
  simp only [List.cons.injEq, Rlp.natural_inj] at hsig
  obtain ⟨-, hchain⟩ := of_parityField ht hsig.1
  have henvelope := eq_of_fieldsRlp ht hfields hchain
  subst henvelope
  exact ⟨rfl, signature_of_encode h⟩

end Envelope

namespace SignedTx

/-! ## What a signature is checked against -/

/-- The signature of the transaction is checked against the hash of these bytes, be it on its own or
in a context, which only looks at the chain besides. -/
structure CheckedAgainst (tx : SignedTx) (preimage : Bytes) : Prop where
  recover : tx.recover? = tx.signature.recover? (Keccak.hash preimage)
  sender : ∀ (context : SignerContext) (address : Address),
    context.sender tx = .ok address ↔
      (∀ chainId, tx.envelope.chainId = some chainId → chainId = context.chainId) ∧
        tx.signature.recover? (Keccak.hash preimage) = some address

theorem checkedAgainst_signingPayload (tx : SignedTx) :
    tx.CheckedAgainst tx.envelope.signingPayload where
  recover := rfl
  sender context address := by
    rw [SignerContext.sender]
    cases hchain : tx.envelope.chainId with
    | none =>
      rw [recovered_eq_ok]
      exact ⟨fun h => ⟨fun _ hset => (by cases hset), h⟩, fun h => h.2⟩
    | some chainId =>
      by_cases hown : chainId = context.chainId
      · simp only [if_pos hown, recovered_eq_ok]
        exact ⟨fun h => ⟨fun _ hset => Option.some.inj hset ▸ hown, h⟩, fun h => h.2⟩
      · simp only [if_neg hown]
        exact ⟨fun h => (by cases h), fun h => absurd (h.1 chainId rfl) hown⟩

/-- A signature is made over the same bytes that it is checked against. -/
theorem signature_of_sign {unsigned : UnsignedTx} {signer : Signer} {tx : SignedTx}
    (h : unsigned.sign signer = .ok tx) :
    tx.signature = signer.key.sign (Keccak.hash tx.envelope.signingPayload) := by
  rw [UnsignedTx.sign] at h
  cases hbound : unsigned.boundFor signer with
  | error e =>
    rw [hbound] at h
    cases h
  | ok bound =>
    rw [hbound] at h
    cases h
    rfl

/-- **What is signed commits to every field.**  Two transactions have the same payload only if they
are the same, so a signature is checked against other bytes than it was made over as soon as
anything in its transaction is altered. -/
theorem committed_of_signingPayload (e e' : Envelope)
    (hlen : e.signingPayload.length < Rlp.lengthLimit) :
    (e.signingPayload = e'.signingPayload → e = e') ∧
    ∀ tx : SignedTx, tx.envelope = e → e ≠ e' →
      (∀ (unsigned : UnsignedTx) (signer : Signer), unsigned.sign signer = .ok tx →
        tx.signature = signer.key.sign (Keccak.hash e.signingPayload)) ∧
      tx.CheckedAgainst e.signingPayload ∧
      { tx with envelope := e' }.CheckedAgainst e'.signingPayload ∧
      e.signingPayload ≠ e'.signingPayload := by
  refine ⟨Envelope.eq_of_signingPayload hlen, ?_⟩
  rintro tx rfl hne
  exact ⟨fun _ _ hsign => signature_of_sign hsign, checkedAgainst_signingPayload tx,
    checkedAgainst_signingPayload { tx with envelope := e' },
    fun h => hne (Envelope.eq_of_signingPayload hlen h)⟩

/-- A transaction that is open to all chains is not taken for one on chain zero, where its signature
would be checked against other bytes. -/
theorem committed_of_open_chain :
    let transfer (chainId : Option ChainId) : Envelope :=
      .legacy ⟨chainId, 0, 1, 21000, none, 0, []⟩
    let tx : SignedTx := {
      envelope := transfer none
      signature := ⟨1, 1, true⟩
      sender := FixedBytes.ofNat 20 0
      chainId := 0 }
    (transfer none).signingPayload.length < Rlp.lengthLimit ∧ transfer none ≠ transfer (some 0) ∧
      tx.CheckedAgainst (transfer none).signingPayload ∧
      { tx with envelope := transfer (some 0) }.CheckedAgainst (transfer (some 0)).signingPayload ∧
      (transfer none).signingPayload ≠ (transfer (some 0)).signingPayload := by
  intro transfer tx
  have hlen : (transfer none).signingPayload.length < Rlp.lengthLimit := by decide
  have hne : transfer none ≠ transfer (some 0) := by decide
  have hcommitted := committed_of_signingPayload (transfer none) (transfer (some 0)) hlen
  exact ⟨hlen, hne, (hcommitted.2 tx rfl hne).2⟩

/-! ## What can be decoded -/

/-- **The bytes that are sent determine the transaction and its signature**, so they can be decoded.
What they leave open is only on record beside them: the sender and the chain they are meant for. -/
theorem determined_of_raw :
    (∀ tx tx' : SignedTx, tx.raw.length < Rlp.lengthLimit → tx.raw = tx'.raw →
      tx.envelope = tx'.envelope ∧ tx.signature = tx'.signature) ∧
    ∃ decode : Bytes → Envelope × Signature, ∀ tx : SignedTx, tx.raw.length < Rlp.lengthLimit →
      decode tx.raw = (tx.envelope, tx.signature) := by
  let encode (signed : Envelope × Signature) : Bytes := signed.1.encode signed.2
  let short : Set (Envelope × Signature) := {signed | (encode signed).length < Rlp.lengthLimit}
  have hinj : Set.InjOn encode short := by
    intro signed hlen signed' _ h
    obtain ⟨henvelope, hsignature⟩ := Envelope.eq_of_encode hlen h
    exact Prod.ext henvelope hsignature
  have : Nonempty (Envelope × Signature) := ⟨.legacy ⟨none, 0, 0, 0, none, 0, []⟩, 0, 0, false⟩
  refine ⟨fun tx tx' hlen h => Envelope.eq_of_encode hlen h, Function.invFunOn encode short,
    fun tx hlen => ?_⟩
  have hshort : (tx.envelope, tx.signature) ∈ short := hlen
  exact hinj.leftInvOn_invFunOn hshort

/-- The same bytes for the highest chain id that there is, on record under two names. -/
theorem determined_of_last_chain :
    let tx (sender : Address) : SignedTx := {
      envelope := .legacy ⟨some (BitVec.allOnes 64), 0, 1, 21000, none, 0, []⟩
      signature := ⟨1, 1, true⟩
      sender
      chainId := 0 }
    let here := tx (FixedBytes.ofNat 20 0)
    let there := tx (FixedBytes.ofNat 20 1)
    here.raw.length < Rlp.lengthLimit ∧ here.raw = there.raw ∧
      here.envelope = there.envelope ∧ here.signature = there.signature := by
  intro tx here there
  have hlen : here.raw.length < Rlp.lengthLimit := by decide
  exact ⟨hlen, rfl, determined_of_raw.1 here there hlen rfl⟩

end SignedTx
end TxForge
