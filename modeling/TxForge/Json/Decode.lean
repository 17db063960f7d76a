import TxForge.Hex
import TxForge.Json.Literal
import TxForge.Quantity

/-!
# Typed data from JSON values

Each reader takes the forms its type may have and refuses every other value.  No reader rounds:
an integer has to be an unsigned integer literal, and a number that does not fit its width is
refused.

Members of a record are looked up through `Json.members?`, which refuses an object that names a
known key twice or has a key that denotes no text, and forgets the members nobody asked for.
-/

set_option autoImplicit false

namespace TxForge
namespace Json

/-! ## Single values -/

/-- An unsigned integer literal. -/
def natural? : Json → Option Nat
  | .number (.natural n) => some n
  | _ => none

/-- An unsigned integer literal that fits the width. -/
def uint? (width : Nat) (v : Json) : Option (BitVec width) :=
  v.natural?.bind (bounded? width)

/-- An integer literal, with or without a minus sign. -/
def integer? : Json → Option Int
  | .number (.natural n) => some n
  | .number (.spelled text) =>
    match text.toList with
    | '-' :: digits => if digits.all Char.isDigit then some (-(Number.ofDigits digits : Int)) else none
    | _ => none
  | _ => none

/-- A string. -/
def text? : Json → Option String
  | .string s => s
  | _ => none

/-- A byte, as a number. -/
def byte? (v : Json) : Option UInt8 :=
  v.natural?.bind fun n => if n < 256 then some (UInt8.ofNat n) else none

/-- A byte string: hexadecimal text, or an array of bytes. -/
def bytes? : Json → Option Bytes
  | .string (some s) => Hex.decode? s
  | .array items => items.mapM byte?
  | _ => none

/-- A byte string of fixed length, in either form. -/
def fixedBytes? (n : Nat) (v : Json) : Option (FixedBytes n) :=
  v.bytes?.bind (FixedBytes.ofBytes? n)

/-- A quantity: text in any radix, or an integer literal of at most 64 bits. -/
def quantity? (width : Nat) : Json → Option (BitVec width)
  | .string (some s) => Quantity.parse? width s
  | .number (.natural n) => if n < capacity 64 then bounded? width n else none
  | _ => none

/-- A list of values, each read by `f`. -/
def list? {α : Type} (f : Json → Option α) : Json → Option (List α)
  | .array items => items.mapM f
  | _ => none

/-! ## Parts of a record -/

/-- A part that may be absent: missing and `null` mean the same. -/
def optional? {α : Type} (f : Json → Option α) : Option Json → Option (Option α)
  | none | some .null => some none
  | some v => (f v).map some

/-- A part that may be missing and then has the value `default`; `null` is no way to leave it
out. -/
def withDefault? {α : Type} (f : Json → Option α) (default : α) : Option Json → Option α
  | none => some default
  | some v => f v

/-- A part that has to be there. -/
def required? {α : Type} (f : Json → Option α) (part : Option Json) : Option α :=
  part.bind f

/-- The members with a known key, each at most once; unknown keys are skipped.  There is no answer
when a known key is repeated or some key denotes no text. -/
def members? (known : List String) (members : List (Literal × Json)) :
    Option (List (String × Json)) := do
  let named ← members.mapM fun (key, value) => key.map (·, value)
  let kept := named.filter fun (key, _) => known.contains key
  if (kept.map (·.1)).Nodup then some kept else none

end Json
end TxForge
