import TxForge.Address
import TxForge.Crypto.Sha256

/-!
# Keys and signatures

Signatures over 32-byte digests with the curve secp256k1.  A signature carries the parity of the
point it was made with, so the address of the signer can be recovered from it.

* `Key.sign` chooses its nonce from key and digest alone (RFC 6979) and always answers with the
  lower of the two values that `s` may take.
* `Signature.recover?` brings a higher `s` down before it does anything else, so it cannot tell
  the two signatures apart that a pair `s` and `order - s` makes.
-/

set_option autoImplicit false

namespace TxForge

/-- The numbers of a signature: any 256 bits, whether a signature can have them or not. -/
abbrev Scalar := BitVec 256

/-- A signature with the parity of its point. -/
structure Signature where
  r : Scalar
  s : Scalar
  /-- The `y` of the point is odd. -/
  oddY : Bool
deriving DecidableEq

namespace Signature

open Secp256k1

/-- Half the order of the group, rounded down. -/
def halfOrder : Nat := order / 2

/-- The other signature of the same digest by the same key. -/
def mirrored (sig : Signature) : Signature :=
  ⟨sig.r, BitVec.ofNat 256 (order - sig.s.toNat), !sig.oddY⟩

/-- The signature with the lower `s` of the two. -/
def lowered (sig : Signature) : Signature :=
  if halfOrder < sig.s.toNat then sig.mirrored else sig

/-- A number that a signature can have. -/
def isScalar (n : Nat) : Bool :=
  0 < n && n < order

/-- The address whose key made the signature over the digest.  There is none if the numbers are out
of range or `r` is not the `x` of a point. -/
def recover? (sig : Signature) (digest : Word) : Option Address :=
  let low := sig.lowered
  let r := low.r.toNat
  let s := low.s.toNat
  if isScalar r && isScalar s then do
    let point ← lift? r low.oddY
    let rInv := inverse order r
    let u1 := sub order 0 (digest.toNat % order * rInv % order)
    let u2 := s * rInv % order
    let signer ← (Point.add (.mul u1 (.ofAffine generator)) (.mul u2 (.ofAffine point))).toAffine?
    return Address.ofPoint signer
  else none

end Signature

/-- A secret key: a number that the generator can be multiplied by without reaching infinity. -/
structure Key where
  secret : Nat
  pos : 0 < secret
  lt_order : secret < Secp256k1.order

namespace Key

/-- The key with this number, if it is in range. -/
def ofNat? (n : Nat) : Option Key :=
  if h : 0 < n ∧ n < Secp256k1.order then some ⟨n, h.1, h.2⟩ else none

/-- Reads a key: 32 bytes of hexadecimal text, with or without the marker. -/
def parse? (text : String) : Option Key :=
  (Hex.decodeFixed? 32 text).bind fun secret => ofNat? secret.toNat

/-- The address of the key. -/
def address (key : Key) : Address :=
  match (Secp256k1.Point.mul key.secret (.ofAffine Secp256k1.generator)).toAffine? with
  | some point => .ofPoint point
  | none => FixedBytes.ofNat 20 0

/-! ## Signing -/

/-- The state of the nonce generator: the key of its hash and the last value. -/
structure NonceState where
  hashKey : Bytes
  value : Bytes

namespace NonceState

/-- Mixes data into the state. -/
def mix (g : NonceState) (data : Bytes) : NonceState :=
  let hashKey := Sha256.hmac g.hashKey (g.value ++ data)
  ⟨hashKey, Sha256.hmac hashKey g.value⟩

/-- The state that key and digest determine. -/
def initial (secret z : Nat) : NonceState :=
  let seed := Bytes.bigEndianPadded 32 secret ++ Bytes.bigEndianPadded 32 z
  let g : NonceState := ⟨List.replicate 32 0, List.replicate 32 1⟩
  (g.mix (0 :: seed)).mix (1 :: seed)

/-- The first value in range among the next ones.  A value is out of range with a probability below
`2 ^ -127`, and the last of the `tries` is reduced into range. -/
def next (g : NonceState) (tries : Nat) : Nat :=
  let value := Sha256.hmac g.hashKey g.value
  let candidate := value.toNat
  if Signature.isScalar candidate then candidate
  else
    match tries with
    | 0 => candidate % (Secp256k1.order - 1) + 1
    | tries + 1 => (NonceState.mix ⟨g.hashKey, value⟩ [0]).next tries

end NonceState

/-- The nonce for a digest, given as a number below the order of the group. -/
def nonceFor (key : Key) (z : Nat) : Nat :=
  (NonceState.initial key.secret z).next 64

open Secp256k1 in
/-- Signs a digest. -/
def sign (key : Key) (digest : Word) : Signature :=
  let z := digest.toNat % order
  let k := key.nonceFor z
  match (Point.mul k (.ofAffine generator)).toAffine? with
  | some point =>
    let r := point.x % order
    let s := inverse order k * (z + r * key.secret) % order
    Signature.lowered ⟨BitVec.ofNat 256 r, BitVec.ofNat 256 s, point.y % 2 == 1⟩
  | none => ⟨0, 0, false⟩

end Key
end TxForge
