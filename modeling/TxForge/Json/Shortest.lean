import TxForge.Json.Double

/-!
# The shortest text of a double

A double is written with the fewest digits that are rounded to it, and of those with the ones next
to it.  `Double.shortest` finds them by trying one digit, two digits and so on; seventeen digits are
enough for every double.  `Double.text` lays them out: a point where it stands among the digits or
not far from them, and an exponent otherwise.
-/

set_option autoImplicit false

namespace TxForge
namespace Json

/-- A decimal number `0.d₁d₂d₃… * 10 ^ point`, where the first digit is no zero. -/
structure Decimal where
  digits : List Char
  point : Int

namespace Double

/-- The units in one. -/
def unitsOfOne : Nat := 1 <<< 1074

/-- How many digits stand in front of the point; below zero, how many zeros stand behind it. -/
def point (x : Double) : Int :=
  let estimate : Int := (Nat.toDigits 10 x.units).length - (Nat.toDigits 10 unitsOfOne).length
  if unitsOfOne * Nat.pow 10 estimate.toNat ≤ x.units * Nat.pow 10 (-estimate).toNat then
    estimate + 1
  else estimate

/-- The double rounded to so many digits, as a multiple of a power of ten. -/
def rounded (x : Double) (count : Nat) : Nat × Int :=
  let scale : Int := x.point - count
  (roundDiv (x.units * Nat.pow 10 (-scale).toNat) (unitsOfOne * Nat.pow 10 scale.toNat), scale)

/-- The double next to a multiple of a power of ten. -/
def ofScaled (m : Nat) (scale : Int) : Double :=
  ofRatio (m * Nat.pow 10 scale.toNat) (Nat.pow 10 (-scale).toNat)

/-- A multiple of a power of ten in decimal form, without zeros at the end. -/
def decimal (m : Nat) (scale : Int) : Decimal :=
  let digits := Nat.toDigits 10 m
  ⟨(digits.reverse.dropWhile (· == '0')).reverse, digits.length + scale⟩

/-- The shortest decimal number that is rounded to the double, among those with `count` digits or
more. -/
def shortestFrom (x : Double) (count tries : Nat) : Decimal :=
  let (m, scale) := x.rounded count
  match tries with
  | 0 => decimal m scale
  | tries + 1 =>
    if ofScaled m scale = x then decimal m scale else x.shortestFrom (count + 1) tries

/-- The shortest decimal number that is rounded to the double. -/
def shortest (x : Double) : Decimal :=
  x.shortestFrom 1 16

/-- The text of a double.  There is a point up to sixteen places behind the first digit and up to
four zeros in front of it. -/
def text (x : Double) : List Char :=
  let ⟨digits, point⟩ := x.shortest
  let zeros (count : Int) : List Char := List.replicate count.toNat '0'
  if x = zero then ['0', '.', '0']
  else if digits.length ≤ point ∧ point ≤ 16 then
    digits ++ zeros (point - digits.length) ++ ['.', '0']
  else if 0 < point ∧ point ≤ 16 then
    digits.take point.toNat ++ '.' :: digits.drop point.toNat
  else if -5 < point ∧ point ≤ 0 then '0' :: '.' :: (zeros (-point) ++ digits)
  else
    let fraction := if digits.length = 1 then [] else '.' :: digits.drop 1
    digits.take 1 ++ fraction ++ 'e' :: (toString (point - 1)).toList

end Double
end Json
end TxForge
