import TxForge.Json.Literal
import TxForge.Quantity

/-!
# Numbers as doubles

A double is held as a natural number of units of `2 ^ -1074`, the least that two doubles differ by,
so that nothing is lost; its sign stands elsewhere.  `Double.ofRatio` rounds a quotient to a double.

A number literal is taken for a double in two steps.  Its digits go into a significand of 64 bits
as long as there is room, and the significand is rounded to a double; so is the power of ten that
is left, and the product or quotient of the two is rounded once more.  A number may so leave the
range of a double although it lies within it, if only by a little.
-/

set_option autoImplicit false

namespace TxForge
namespace Json

/-- A double without its sign. -/
structure Double where
  /-- How many times `2 ^ -1074` it is. -/
  units : Nat
deriving DecidableEq

namespace Double

/-- The double zero. -/
def zero : Double := ⟨0⟩

/-- The natural number next to a quotient, the even one of two that are equally near. -/
def roundDiv (n d : Nat) : Nat :=
  let q := n / d
  let r := n % d
  if d < 2 * r ∨ (2 * r = d ∧ q % 2 = 1) then q + 1 else q

/-- The double next to the quotient of two natural numbers: it is rounded to a significand of at
most 53 bits, behind which all bits are zeros. -/
def ofRatio (n d : Nat) : Double :=
  let units := n <<< 1074
  let last := 1 <<< ((units / d).log2 - 52)
  ⟨roundDiv units (d * last) * last⟩

/-- The product, rounded. -/
def mul (x y : Double) : Double :=
  ofRatio (x.units * y.units) (1 <<< 2148)

/-- The quotient, rounded. -/
def div (x y : Double) : Double :=
  ofRatio x.units y.units

/-- A power of ten, rounded. -/
def tenPower (k : Nat) : Double :=
  ofRatio (Nat.pow 10 k) 1

/-- The quotient by the power of ten `k`, which is taken away in portions of at most 308.  What is
left after so many `steps` counts as zero: three of them bring a double of 64 bits there. -/
def scaledDown (x : Double) (steps k : Nat) : Double :=
  match steps with
  | 0 => zero
  | steps + 1 =>
    if k ≤ 308 then x.div (tenPower k) else (x.div (tenPower 308)).scaledDown steps (k - 308)

/-- The double is rounded to infinity: it reaches the largest one and half a unit in its last
place. -/
def isInfinite (x : Double) : Bool :=
  (1 <<< 1024 - 1 <<< 970) <<< 1074 ≤ x.units

end Double

namespace Number

/-- A number literal taken apart.  The sign is left out. -/
structure Parts where
  /-- The digits in front of the point. -/
  whole : List Char
  /-- The digits behind the point. -/
  fraction : List Char
  /-- The digits of the exponent. -/
  exponent : List Char
  /-- The exponent has a minus sign. -/
  isNegative : Bool

/-- Takes a literal apart. -/
def parts (text : List Char) : Parts :=
  let isMark := fun c : Char => c == 'e' || c == 'E'
  let significand := text.takeWhile (!isMark ·)
  let scale := (text.dropWhile (!isMark ·)).drop 1
  { whole := (significand.takeWhile (· != '.')).filter Char.isDigit
    fraction := (significand.dropWhile (· != '.')).drop 1
    exponent := scale.filter Char.isDigit
    isNegative := scale.head? = some '-' }

/-- Adds digits to a significand as long as it keeps to 64 bits, and counts the digits that are
left. -/
def fill (significand : Nat) : List Char → Nat × Nat
  | [] => (significand, 0)
  | c :: rest =>
    let more := 10 * significand + (c.toNat - 48)
    if more < capacity 64 then fill more rest else (significand, rest.length + 1)

/-- The significand of a literal and the power of ten that it is scaled by.  Digits that are left
over count as zeros in front of the point, and behind it for nothing. -/
def scaled (text : List Char) : Nat × Int :=
  let p := parts text
  let (whole, left) := fill 0 p.whole
  let (significand, left') := fill whole p.fraction
  let exponent : Int := if p.isNegative then -(ofDigits p.exponent : Int) else ofDigits p.exponent
  (significand, exponent + left + left' - p.fraction.length)

/-- The double that a literal is taken for, if it stays in the range.  The sign is left out. -/
def toDouble? (text : List Char) : Option Double :=
  let (significand, scale) := scaled text
  let start := Double.ofRatio significand 1
  if significand = 0 then some .zero
  else if scale < 0 then some (start.scaledDown 4 (-scale).toNat)
  else if 308 < scale then none
  else
    let product := start.mul (.tenPower scale.toNat)
    if product.isInfinite then none else some product

/-- The literal stays in the range of a double. -/
def isDouble (text : List Char) : Bool :=
  (toDouble? text).isSome

/-- The exponent of the literal alone takes it out of every range: it needs more than 31 bits, and
it scales up something other than zero. -/
def isOverlong (text : List Char) : Bool :=
  let p := parts text
  !p.isNegative && (p.whole ++ p.fraction).any (· != '0') && capacity 31 ≤ ofDigits p.exponent

end Number
end Json
end TxForge
