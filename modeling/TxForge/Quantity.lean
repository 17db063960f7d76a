import TxForge.Bytes

/-!
# Quantities as text

Amounts of wei are read from text in four radixes, chosen by the marker in front.  Underscores may
stand anywhere among the digits, and a text without digits is zero.  The number is read exactly:
one that does not fit the width is refused, never cut.
-/

set_option autoImplicit false

namespace TxForge
namespace Quantity

/-- The radix a text is in, and its digits: sixteen, eight or two behind `0x`, `0o` or `0b`, and
ten without a marker. -/
def radixOf : List Char → Nat × List Char
  | '0' :: 'x' :: digits | '0' :: 'X' :: digits => (16, digits)
  | '0' :: 'o' :: digits | '0' :: 'O' :: digits => (8, digits)
  | '0' :: 'b' :: digits | '0' :: 'B' :: digits => (2, digits)
  | digits => (10, digits)

/-- What a digit is worth in any radix up to thirty-six: letters follow the ten figures, in either
case. -/
def digitValue? (c : Char) : Option Nat :=
  let n := c.toNat
  if 48 ≤ n ∧ n ≤ 57 then some (n - 48)
  else if 97 ≤ n ∧ n ≤ 122 then some (n - 87)
  else if 65 ≤ n ∧ n ≤ 90 then some (n - 55)
  else none

/-- The number that digits of a radix denote behind the number `n`. -/
def readDigits? (radix : Nat) : List Char → Nat → Option Nat
  | [], n => some n
  | c :: rest, n =>
    if c = '_' then readDigits? radix rest n
    else
      match digitValue? c with
      | some d => if d < radix then readDigits? radix rest (radix * n + d) else none
      | none => none

/-- The natural number that a text denotes. -/
def toNat? (text : List Char) : Option Nat :=
  readDigits? (radixOf text).1 (radixOf text).2 0

/-- The number that a text denotes, if it fits the width. -/
def parse? (width : Nat) (text : String) : Option (BitVec width) :=
  (toNat? text.toList).bind (bounded? width)

end Quantity
end TxForge
