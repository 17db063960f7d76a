import TxForge.Hex
import TxForge.Json

/-!
# Literals of JSON text

How number and string literals are spelled.

* `Number.Phase` is the automaton of number literals.
* `Piece` is what a string literal is made of before surrogate escapes are paired.
-/

set_option autoImplicit false

namespace TxForge
namespace Json

/-! ## Number literals -/

/-- How far a number literal has been read. -/
inductive Number.Phase where
  /-- Behind the minus sign. -/
  | sign
  /-- Behind a leading zero, which no digit may follow. -/
  | zero
  /-- Among the digits of the integer part. -/
  | whole
  /-- Behind the point. -/
  | point
  /-- Among the digits of the fraction. -/
  | fraction
  /-- Behind the exponent mark. -/
  | mark
  /-- Behind the sign of the exponent. -/
  | markSign
  /-- Among the digits of the exponent. -/
  | exponent
deriving DecidableEq

namespace Number

/-- The phase that a literal starts in with the character `c`. -/
def Phase.first? (c : Char) : Option Phase :=
  if c = '-' then some .sign
  else if c = '0' then some .zero
  else if c.isDigit then some .whole
  else none

/-- The phase that one more character leads to, if the literal goes on with it. -/
def Phase.next? (p : Phase) (c : Char) : Option Phase :=
  let isMark := c = 'e' ∨ c = 'E'
  match p with
  | .sign => if c = '0' then some .zero else if c.isDigit then some .whole else none
  | .zero => if c = '.' then some .point else if isMark then some .mark else none
  | .whole =>
    if c.isDigit then some .whole
    else if c = '.' then some .point
    else if isMark then some .mark
    else none
  | .point => if c.isDigit then some .fraction else none
  | .fraction =>
    if c.isDigit then some .fraction else if isMark then some .mark else none
  | .mark =>
    if c.isDigit then some .exponent
    else if c = '+' ∨ c = '-' then some .markSign
    else none
  | .markSign => if c.isDigit then some .exponent else none
  | .exponent => if c.isDigit then some .exponent else none

/-- The literal may end here. -/
def Phase.isComplete : Phase → Bool
  | .zero | .whole | .fraction | .exponent => true
  | _ => false

/-- The number that decimal digits denote. -/
def ofDigits (digits : List Char) : Nat :=
  digits.foldl (fun n c => 10 * n + (c.toNat - 48)) 0

/-- The number of a complete literal. -/
def ofChars (text : List Char) : Number :=
  if text.all Char.isDigit then .natural (ofDigits text) else .spelled (String.ofList text)

end Number

/-! ## String literals -/

/-- One character of a string literal, or one code unit given by an escape. -/
inductive Piece where
  | char (c : Char)
  | unit (u : Nat)
deriving DecidableEq

namespace Piece

/-- The first half of a surrogate pair. -/
def isHigh (u : Nat) : Bool := 0xD800 ≤ u && u < 0xDC00

/-- The second half of a surrogate pair. -/
def isLow (u : Nat) : Bool := 0xDC00 ≤ u && u < 0xE000

/-- The characters that pieces spell.  Two escapes that form a surrogate pair are one character,
and a surrogate outside a pair spells nothing. -/
def decode? : List Piece → Option (List Char)
  | [] => some []
  | .char c :: rest => (decode? rest).map (c :: ·)
  | .unit u :: rest =>
    if isHigh u then
      match rest with
      | .unit v :: rest' =>
        if isLow v then
          (decode? rest').map (Char.ofNat (0x10000 + (u - 0xD800) * 1024 + (v - 0xDC00)) :: ·)
        else none
      | _ => none
    else if isLow u then none
    else (decode? rest).map (Char.ofNat u :: ·)

/-- The literal that pieces spell. -/
def literal (pieces : List Piece) : Literal :=
  (decode? pieces).map String.ofList

end Piece

/-- The character that a one-letter escape stands for. -/
def unescaped? (c : Char) : Option Char :=
  if c = '"' ∨ c = '\\' ∨ c = '/' then some c
  else if c = 'b' then some '\x08'
  else if c = 'f' then some '\x0c'
  else if c = 'n' then some '\n'
  else if c = 'r' then some '\r'
  else if c = 't' then some '\t'
  else none

end Json
end TxForge
