import TxForge.Message
import TxForge.Proofs.Validation
import TxForge.Proofs.Wire

/-!
# Two signatures for one transaction

Every signature has a mirror image, with `order - s` in place of `s` and the other parity.  It gives
the same address away, and it takes no key to make one of the two out of the other.  The order is
odd, so exactly one of them has an `s` of at most half of it.

* `Signature.lowered_mirrored` — lowering takes both to the same signature, and all of recovery
  comes after it (`Signature.recover?_congr`).
* `SignedTx.JudgedAlike` — validation, the signer contexts and the messages come to the same for two
  transactions, be it a value or an error.  They look at a signature only to recover a sender from
  it, so it is enough if that is the same (`SignedTx.judgedAlike_of_recover`).
* `SignedTx.raw_ne` — the bytes are not the same: under one transaction they tell the signature
  (`Envelope.signature_of_encode`).
* `SignedTx.judgedAlike_of_scalar` — so whoever sees a transaction can send it as other bytes, and
  nothing here would refuse it.
-/

set_option autoImplicit false

namespace TxForge

/-! ## Mirror images -/

namespace Signature

open Secp256k1

variable {sig : Signature}

/-- The order is odd, so no `s` is its own image. -/
theorem order_eq : order = 2 * halfOrder + 1 := by
  decide

theorem toNat_s_mirrored (sig : Signature) : sig.mirrored.s.toNat = order - sig.s.toNat := by
  have horder : order < capacity 256 := by decide
  exact toNat_ofNat_of_lt (by omega)

theorem mirrored_mirrored (h : sig.s.toNat ≤ order) : sig.mirrored.mirrored = sig := by
  rw [Signature.mk.injEq]
  refine ⟨rfl, BitVec.eq_of_toNat_eq ?_, Bool.not_not sig.oddY⟩
  rw [toNat_s_mirrored, toNat_s_mirrored, Nat.sub_sub_self h]

theorem mirrored_ne (sig : Signature) : sig.mirrored ≠ sig := by
  intro h
  have hodd : (!sig.oddY) = sig.oddY := congrArg oddY h
  exact Bool.not_ne_self sig.oddY hodd

theorem lowered_of_le (h : sig.s.toNat ≤ halfOrder) : sig.lowered = sig :=
  if_neg (Nat.not_lt.2 h)

theorem lowered_of_lt (h : halfOrder < sig.s.toNat) : sig.lowered = sig.mirrored :=
  if_pos h

/-- **A signature and its mirror image are lowered to the same signature.** -/
theorem lowered_mirrored (h : sig.s.toNat ≤ order) : sig.mirrored.lowered = sig.lowered := by
  have hs := sig.toNat_s_mirrored
  have horder := order_eq
  by_cases hlow : sig.s.toNat ≤ halfOrder
  · have hhigh : halfOrder < sig.mirrored.s.toNat := by omega
    rw [lowered_of_lt hhigh, mirrored_mirrored h, lowered_of_le hlow]
  · have hlow' : sig.mirrored.s.toNat ≤ halfOrder := by omega
    rw [lowered_of_le hlow', lowered_of_lt (Nat.not_le.1 hlow)]

/-- Recovery sees of a signature what is left when it is lowered. -/
theorem recover?_congr {sig sig' : Signature} (h : sig.lowered = sig'.lowered) (digest : Word) :
    sig.recover? digest = sig'.recover? digest := by
  rw [recover?, recover?, h]

/-- The other signature is the mirror image: `s` and parity are the other ones that fit `r`.  Both
are numbers that a signature can have, and one of them is the lower. -/
structure Mirrors (other sig : Signature) : Prop where
  r : other.r = sig.r
  s : other.s.toNat = order - sig.s.toNat
  oddY : other.oddY = !sig.oddY
  inRange : 0 < other.s.toNat ∧ other.s.toNat < order
  oneLow : other.s.toNat ≤ halfOrder ↔ ¬ sig.s.toNat ≤ halfOrder

theorem mirrors_mirrored (hpos : 0 < sig.s.toNat) (hlt : sig.s.toNat < order) :
    sig.mirrored.Mirrors sig := by
  have hs := sig.toNat_s_mirrored
  have horder := order_eq
  exact ⟨rfl, hs, rfl, by omega, by omega⟩

end Signature

/-! ## What acceptance sees -/

namespace SignedTx

/-- No check tells the two transactions apart, and what is made of them is the same.  This includes
all that goes wrong. -/
structure JudgedAlike (tx tx' : SignedTx) : Prop where
  recover : tx.recover? = tx'.recover?
  validate : tx.validate = tx'.validate
  sender : ∀ context : SignerContext, context.sender tx = context.sender tx'
  message : ∀ context baseFee, tx.toMessage context baseFee = tx'.toMessage context baseFee

variable {tx : SignedTx} {sig : Signature}

/-- **A signature counts by who is recovered from it**, and by nothing else. -/
theorem judgedAlike_of_recover (h : { tx with signature := sig }.recover? = tx.recover?) :
    { tx with signature := sig }.JudgedAlike tx := by
  have hcheck : { tx with signature := sig }.checkSender = tx.checkSender := by
    rw [checkSender, checkSender, h]
  have hrecovered : SignerContext.sender.recovered { tx with signature := sig } =
      SignerContext.sender.recovered tx := by
    rw [SignerContext.sender.recovered, SignerContext.sender.recovered, h]
  have hsender (context : SignerContext) :
      context.sender { tx with signature := sig } = context.sender tx := by
    rw [SignerContext.sender, SignerContext.sender, hrecovered]
  refine ⟨h, ?_, hsender, ?_⟩
  · rw [validate, validate, hcheck]
  · intro context baseFee
    rw [toMessage, toMessage, hsender]

theorem recover?_mirrored (h : tx.signature.s.toNat ≤ Secp256k1.order) :
    { tx with signature := tx.signature.mirrored }.recover? = tx.recover? :=
  Signature.recover?_congr (Signature.lowered_mirrored h) tx.envelope.signingHash

/-- Another signature makes other bytes. -/
theorem raw_ne (h : sig ≠ tx.signature) : { tx with signature := sig }.raw ≠ tx.raw := by
  intro hraw
  exact h (Envelope.signature_of_encode hraw)

/-- **Acceptance is blind to which of its two signatures a transaction carries, and its bytes are
not.**  The mirror image of a signature is one in its own right, it is judged like the signature in
all that is asked of a transaction, and the transaction is sent as other bytes. -/
theorem judgedAlike_of_scalar (tx : SignedTx) (hpos : 0 < tx.signature.s.toNat)
    (hlt : tx.signature.s.toNat < Secp256k1.order) :
    let twin : SignedTx := { tx with signature := tx.signature.mirrored }
    twin.signature.Mirrors tx.signature ∧ twin.JudgedAlike tx ∧ twin.raw ≠ tx.raw := by
  intro twin
  have hrecover : twin.recover? = tx.recover? := recover?_mirrored (Nat.le_of_lt hlt)
  exact ⟨Signature.mirrors_mirrored hpos hlt, judgedAlike_of_recover hrecover,
    raw_ne tx.signature.mirrored_ne⟩

/-- At half the order, where one step makes the difference between the lower `s` and the higher: the
step and the parity together change nothing, and the step alone makes it the signature of another
sender. -/
theorem judgedAlike_of_half_order :
    let sender : Address := FixedBytes.ofNat 20 0x73656a628a9308037ee49152fe3713492efc49a2
    let other : Address := FixedBytes.ofNat 20 0xc49df3757a424373148b9594c55ae41992751d12
    let transfer (sig : Signature) : SignedTx :=
      ⟨.legacy ⟨some 1, 0, 1, 21000, none, 0, []⟩, sig, sender, 1⟩
    let half : Scalar := BitVec.ofNat 256 Signature.halfOrder
    let tx := transfer ⟨1, half, false⟩
    let twin := transfer ⟨1, half + 1, true⟩
    tx.validate = .ok () ∧ twin.validate = .ok () ∧ twin.raw ≠ tx.raw ∧
      (transfer ⟨1, half + 1, false⟩).validate = .error (.senderMismatch sender other) := by
  intro sender other transfer half tx twin
  have hpayable : tx.envelope.Payable := ⟨by decide, by rintro _ ⟨⟩, by decide⟩
  have hrecover : tx.recover? = some sender := by
    show Signature.recover? _ _ = some (FixedBytes.ofNat 20 _)
    decide +kernel
  have hother : (transfer ⟨1, half + 1, false⟩).recover? = some other := by
    show Signature.recover? _ _ = some (FixedBytes.ofNat 20 _)
    decide +kernel
  have hvalid : tx.validate = .ok () := validate_of_valid ⟨hpayable, rfl, hrecover⟩
  have htwin : twin = { tx with signature := tx.signature.mirrored } := by decide
  obtain ⟨-, halike, hraw⟩ := judgedAlike_of_scalar tx (by decide) (by decide)
  rw [← htwin] at halike hraw
  exact ⟨hvalid, halike.validate.trans hvalid, hraw,
    validate_of_fault (.sender hpayable rfl hother (by decide))⟩

end SignedTx
end TxForge
