/-!
# The curve secp256k1

The curve `y² = x³ + 7` over the prime field of `p = 2²⁵⁶ - 2³² - 977`, and the group of its
points, which has prime order.  Points are added in Jacobian coordinates, so that only the last
step has to invert: `(x, y, z)` stands for the affine point `(x / z², y / z³)`, and `z = 0` for
the point at infinity.

All numbers are naturals below the modulus.
-/

set_option autoImplicit false

namespace TxForge
namespace Secp256k1

/-- The prime of the field. -/
def fieldPrime : Nat := 1 <<< 256 - 1 <<< 32 - 977

/-- The number of points of the curve. -/
def order : Nat := 0xfffffffffffffffffffffffffffffffebaaedce6af48a03bbfd25e8cd0364141

/-! ## Arithmetic modulo a prime -/

/-- Multiplies `acc` by the power of `base` that the lowest `bits` bits of `exponent` give, after
squaring it once for each of them. -/
def powStep (modulus base exponent : Nat) : Nat → Nat → Nat
  | 0, acc => acc
  | bits + 1, acc =>
    let square := acc * acc % modulus
    powStep modulus base exponent bits
      (if exponent.testBit bits then square * base % modulus else square)

/-- `base ^ exponent` modulo the modulus, for exponents of at most 256 bits. -/
def powMod (modulus base exponent : Nat) : Nat :=
  powStep modulus base exponent 256 (1 % modulus)

/-- The inverse modulo a prime; zero for zero. -/
def inverse (prime a : Nat) : Nat :=
  powMod prime a (prime - 2)

/-- The difference modulo the modulus of two numbers below it. -/
def sub (modulus a b : Nat) : Nat :=
  (a + (modulus - b)) % modulus

/-- The square root modulo the field prime, if there is one.  The prime is 3 modulo 4, so the only
candidates are the power and its negative. -/
def sqrt? (a : Nat) : Option Nat :=
  let root := powMod fieldPrime a ((fieldPrime + 1) / 4)
  if root * root % fieldPrime = a % fieldPrime then some root else none

/-! ## Points -/

/-- A point of the curve other than the one at infinity. -/
structure Affine where
  x : Nat
  y : Nat
deriving DecidableEq

/-- A point in Jacobian coordinates. -/
structure Point where
  x : Nat
  y : Nat
  z : Nat

/-- The point that generates the group. -/
def generator : Affine where
  x := 0x79be667ef9dcbbac55a06295ce870b07029bfcdb2dce28d959f2815b16f81798
  y := 0x483ada7726a3c4655da4fbfc0e1108a8fd17b448a68554199c47d08ffb10d4b8

namespace Point

/-- The point at infinity. -/
def infinity : Point := ⟨1, 1, 0⟩

/-- An affine point. -/
def ofAffine (a : Affine) : Point := ⟨a.x, a.y, 1⟩

/-- The affine point, unless it is the one at infinity. -/
def toAffine? (a : Point) : Option Affine :=
  if a.z = 0 then none
  else
    let zInv := inverse fieldPrime a.z
    let zInv2 := zInv * zInv % fieldPrime
    some ⟨a.x * zInv2 % fieldPrime, a.y * (zInv2 * zInv % fieldPrime) % fieldPrime⟩

/-- The point added to itself. -/
def double (a : Point) : Point :=
  let p := fieldPrime
  if a.z = 0 ∨ a.y = 0 then infinity
  else
    let y2 := a.y * a.y % p
    let s := 4 * a.x * y2 % p
    let m := 3 * a.x * a.x % p
    let x := sub p (m * m % p) (2 * s % p)
    let y := sub p (m * sub p s x % p) (8 * y2 * y2 % p)
    ⟨x, y, 2 * a.y * a.z % p⟩

/-- The sum of two points. -/
def add (a b : Point) : Point :=
  let p := fieldPrime
  if a.z = 0 then b
  else if b.z = 0 then a
  else
    let az2 := a.z * a.z % p
    let bz2 := b.z * b.z % p
    let u1 := a.x * bz2 % p
    let u2 := b.x * az2 % p
    let s1 := a.y * (bz2 * b.z % p) % p
    let s2 := b.y * (az2 * a.z % p) % p
    if u1 = u2 then
      if s1 = s2 then double a else infinity
    else
      let h := sub p u2 u1
      let r := sub p s2 s1
      let h2 := h * h % p
      let h3 := h2 * h % p
      let v := u1 * h2 % p
      let x := sub p (r * r % p) ((h3 + 2 * v) % p)
      let y := sub p (r * sub p v x % p) (s1 * h3 % p)
      ⟨x, y, h * (a.z * b.z % p) % p⟩

/-- Doubles `acc` once for each of the lowest `bits` bits of `k`, highest first, and adds `a` where
the bit is set. -/
def mulStep (a : Point) (k : Nat) : Nat → Point → Point
  | 0, acc => acc
  | bits + 1, acc =>
    let twice := double acc
    mulStep a k bits (if k.testBit bits then add twice a else twice)

/-- The multiple of a point by a number of at most 256 bits. -/
def mul (k : Nat) (a : Point) : Point :=
  mulStep a k 256 infinity

end Point

/-- The point with the given `x` whose `y` is odd or even as wanted, if the curve has one. -/
def lift? (x : Nat) (odd : Bool) : Option Affine :=
  (sqrt? ((x * x % fieldPrime * x + 7) % fieldPrime)).map fun root =>
    ⟨x, if (root % 2 == 1) == odd then root else sub fieldPrime 0 root⟩

end Secp256k1
end TxForge
