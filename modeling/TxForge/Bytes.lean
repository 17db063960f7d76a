/-!
# Byte strings and numbers

The raw material of every wire format: byte strings of any length, byte strings of a fixed
length, and the big-endian reading of both as natural numbers.

* `Bytes.toNat` and `Bytes.bigEndian` are inverse up to leading zeros: `bigEndian` writes no
  leading zero, so it is the shortest string a number can be read from.
* `FixedBytes n` carries its length in the type; addresses and 32-byte words are instances.
* The quantities of a transaction are bit vectors of the width their place on the wire has.
-/

set_option autoImplicit false

namespace TxForge

/-- A byte string. -/
abbrev Bytes := List UInt8

namespace Bytes

/-! ## Big-endian numbers -/

/-- The number a byte string denotes, most significant byte first. -/
def toNat (b : Bytes) : Nat :=
  b.foldl (fun n byte => 256 * n + byte.toNat) 0

/-- `n` in exactly `len` bytes, most significant first; higher bytes are cut off. -/
def bigEndianPadded : Nat → Nat → Bytes
  | 0, _ => []
  | len + 1, n => bigEndianPadded len (n / 256) ++ [UInt8.ofNat n]

/-- How many bytes the number `n` needs, at least one. -/
def widthOf (n : Nat) : Nat :=
  n.log2 / 8 + 1

/-- The shortest byte string that denotes `n`: no leading zero, and empty for zero. -/
def bigEndian (n : Nat) : Bytes :=
  (bigEndianPadded (widthOf n) n).dropWhile (· == 0)

@[simp] theorem length_bigEndianPadded (len n : Nat) : (bigEndianPadded len n).length = len := by
  induction len generalizing n with
  | zero => rfl
  | succ len ih => simp [bigEndianPadded, ih]

@[simp] theorem toNat_nil : toNat [] = 0 := rfl

/-- One more byte at the end shifts the number by a byte. -/
theorem toNat_concat (b : Bytes) (byte : UInt8) :
    toNat (b ++ [byte]) = 256 * toNat b + byte.toNat := by
  simp [toNat, List.foldl_append]

end Bytes

/-! ## Byte strings of fixed length -/

/-- A byte string of exactly `n` bytes. -/
structure FixedBytes (n : Nat) where
  /-- The bytes, in the order they are written. -/
  toBytes : Bytes
  /-- There are `n` of them. -/
  length_eq : toBytes.length = n
deriving DecidableEq

namespace FixedBytes

/-- The byte string `b` as `n` bytes, if it has that length. -/
def ofBytes? (n : Nat) (b : Bytes) : Option (FixedBytes n) :=
  if h : b.length = n then some ⟨b, h⟩ else none

/-- The number `v` in `n` bytes, most significant first. -/
def ofNat (n v : Nat) : FixedBytes n :=
  ⟨Bytes.bigEndianPadded n v, Bytes.length_bigEndianPadded n v⟩

/-- The number the bytes denote. -/
def toNat {n : Nat} (b : FixedBytes n) : Nat :=
  b.toBytes.toNat

@[ext] theorem ext {n : Nat} {a b : FixedBytes n} (h : a.toBytes = b.toBytes) : a = b := by
  cases a; cases b; simp_all

/-- The bytes of a fixed byte string read back as that string. -/
@[simp] theorem ofBytes?_toBytes {n : Nat} (b : FixedBytes n) : ofBytes? n b.toBytes = some b := by
  simp [ofBytes?, b.length_eq]

theorem toBytes_of_ofBytes? {n : Nat} {b : Bytes} {f : FixedBytes n} (h : ofBytes? n b = some f) :
    f.toBytes = b := by
  unfold ofBytes? at h
  split at h
  · cases h; rfl
  · cases h

end FixedBytes

/-- The account or contract that a transaction comes from or goes to. -/
abbrev Address := FixedBytes 20

/-- A 32-byte word: a hash, a storage key, or the secret of a key pair. -/
abbrev Word := FixedBytes 32

/-! ## Quantities of a transaction -/

/-- The number that tells one chain from another. -/
abbrev ChainId := BitVec 64

/-- How many transactions an account has sent. -/
abbrev Nonce := BitVec 64

/-- An amount of computation. -/
abbrev Gas := BitVec 64

/-- Wei paid per unit of gas. -/
abbrev Price := BitVec 128

/-- An amount of wei, or any other 256-bit number. -/
abbrev Wei := BitVec 256

/-- How many numbers fit a width. -/
def capacity (width : Nat) : Nat :=
  1 <<< width

/-- The largest value of a width when the number does not fit, else the number itself. -/
def saturated (width n : Nat) : BitVec width :=
  BitVec.ofNat width (min n (capacity width - 1))

/-- The number `n` if it fits the width. -/
def bounded? (width n : Nat) : Option (BitVec width) :=
  if n < capacity width then some (BitVec.ofNat width n) else none

theorem toNat_lt_capacity {width : Nat} (v : BitVec width) : v.toNat < capacity width := by
  rw [capacity, Nat.one_shiftLeft]
  exact v.isLt

theorem toNat_ofNat_of_lt {width n : Nat} (h : n < capacity width) :
    (BitVec.ofNat width n).toNat = n := by
  rw [capacity, Nat.one_shiftLeft] at h
  rw [BitVec.toNat_ofNat, Nat.mod_eq_of_lt h]

theorem toNat_saturated (width n : Nat) :
    (saturated width n).toNat = min n (capacity width - 1) := by
  have : 0 < capacity width := Nat.lt_of_le_of_lt (Nat.zero_le _) (toNat_lt_capacity (0 : BitVec width))
  exact toNat_ofNat_of_lt (by omega)

/-- A number fits a width exactly when some value of that width is it. -/
theorem bounded?_eq_some_iff {width n : Nat} {v : BitVec width} :
    bounded? width n = some v ↔ v.toNat = n := by
  unfold bounded?
  split
  · rename_i h
    constructor
    · intro hv
      cases hv
      exact toNat_ofNat_of_lt h
    · intro hv
      rw [← hv, BitVec.ofNat_toNat, BitVec.setWidth_eq]
  · rename_i h
    constructor
    · intro hv
      cases hv
    · rintro rfl
      exact absurd (toNat_lt_capacity v) h

end TxForge
