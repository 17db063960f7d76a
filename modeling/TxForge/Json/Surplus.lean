import TxForge.Json.Double

/-!
# Surplus items

An array that stands for a byte string of fixed length may have one item too many.  Behind the last
byte there is a look for another one, and only if a byte is found is the array too long.  Anything
else is skipped: the surplus item goes up to the character at which it shows that it is no byte,
and the array has to end right there.  So the item need not be a JSON value, but a JSON value that
opens a bracket or brace, which is no byte at its first character, is never skipped.
-/

set_option autoImplicit false

namespace TxForge
namespace Json

/-- How far a surplus item has been read. -/
inductive Surplus where
  /-- In a word, with the letters still to come. -/
  | word (next : Char) (rest : List Char)
  /-- In a number, with its characters so far, last first. -/
  | number (phase : Number.Phase) (read : List Char)
  /-- In a string. -/
  | text
  /-- Behind the backslash of an escape. -/
  | escape
  /-- In a four-digit escape with `left` bytes to come, and what its digits denote so far, if all
  are digits.  It is `paired` if it has to be the second half of a surrogate pair. -/
  | unit (paired : Bool) (left : Nat) (value : Option Nat)
  /-- Behind the first half of a surrogate pair. -/
  | half
  /-- Behind the backslash that follows the first half of a surrogate pair. -/
  | halfEscape

namespace Surplus

/-- What one more character does to a surplus item. -/
inductive Verdict where
  /-- The character belongs to the item, and the item goes on. -/
  | goesOn (s : Surplus)
  /-- The character belongs to the item and is its last. -/
  | ends
  /-- The item has ended before the character. -/
  | ended
  /-- The array is too long, or it can no longer end here. -/
  | refused

/-- The item that starts with the character `c`. -/
def first? (c : Char) : Option Surplus :=
  if c = '"' then some .text
  else if c = 'n' then some (.word 'u' ['l', 'l'])
  else if c = 't' then some (.word 'r' ['u', 'e'])
  else if c = 'f' then some (.word 'a' ['l', 's', 'e'])
  else (Number.Phase.first? c).map (.number · [c])

/-- The number is a byte. -/
def isByte : Number → Bool
  | .natural n => n < 256
  | .spelled _ => false

/-- The item breaks off with the character.  A single byte is skipped with it, and a character of
more bytes leaves some behind. -/
def breakOff (c : Char) : Verdict :=
  if c.utf8Size = 1 then .ends else .refused

/-- What follows a four-digit escape. -/
def behindUnit (paired : Bool) (u : Nat) : Verdict :=
  if paired then if Piece.isLow u then .goesOn .text else .ends
  else if Piece.isLow u then .ends
  else if Piece.isHigh u then .goesOn .half
  else .goesOn .text

/-- What one character does. -/
def step : Surplus → Char → Verdict
  | .word next rest, c =>
    if c = next then
      match rest with
      | [] => .ends
      | next' :: rest' => .goesOn (.word next' rest')
    else breakOff c
  | .number phase read, c =>
    match phase.next? c with
    | some phase' =>
      if phase' = .exponent ∧ Number.isOverlong (c :: read).reverse then .ends
      else .goesOn (.number phase' (c :: read))
    | none =>
      match phase with
      | .sign | .mark | .markSign => breakOff c
      | _ => if isByte (.ofChars read.reverse) then .refused else .ended
  | .text, c =>
    if c = '"' ∨ c.toNat < 32 then .ends
    else if c = '\\' then .goesOn .escape
    else .goesOn .text
  | .escape, c =>
    if c = 'u' then .goesOn (.unit false 4 (some 0))
    else if (unescaped? c).isSome then .goesOn .text
    else breakOff c
  | .unit paired left value, c =>
    let value' := value.bind fun v => (Hex.digitValue? c).map (16 * v + ·)
    if c.utf8Size < left then .goesOn (.unit paired (left - c.utf8Size) value')
    else if left < c.utf8Size then .refused
    else
      match value' with
      | some u => behindUnit paired u
      | none => .ends
  | .half, c => if c = '\\' then .goesOn .halfEscape else breakOff c
  | .halfEscape, c => if c = 'u' then .goesOn (.unit true 4 (some 0)) else breakOff c

end Surplus
end Json
end TxForge
