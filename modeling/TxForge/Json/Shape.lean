import TxForge.Json.Decode

/-!
# Shapes of JSON values

What is asked of a value that is tested but not kept.  `Shape.fits` runs the test.

An array that stands for a byte string of fixed length may have one item too many if the item is
no byte.  How far this goes depends on how the value came about, so it is a parameter of the test:

* a value that was held as a whole before it is tested has `isNoByte` items to spare;
* a value that is tested while its text is read has `isPlainNoByte` items to spare, because a
  bracket or a brace ends such an item too early (see `TxForge.Json.Surplus`).
-/

set_option autoImplicit false

namespace TxForge
namespace Json

/-! ## Surplus items -/

/-- The value is no byte. -/
def isNoByte (v : Json) : Bool :=
  v.byte?.isNone

/-- The value is no byte, and neither an array nor an object. -/
def isPlainNoByte : Json → Bool
  | .array _ | .object _ => false
  | v => v.isNoByte

/-- A byte string of fixed length.  An array of bytes may have one item more if it is to spare. -/
def spareBytes? (isSpare : Json → Bool) (n : Nat) : Json → Option (FixedBytes n)
  | .array items =>
    match items.drop n with
    | [item] => if isSpare item then (Json.array (items.take n)).fixedBytes? n else none
    | _ => (Json.array items).fixedBytes? n
  | v => v.fixedBytes? n

/-! ## Shapes -/

/-- What a value has to be. -/
inductive Shape where
  /-- A byte string of this length. -/
  | fixed (length : Nat)
  /-- A number of at most this many bits. -/
  | number (width : Nat)
  /-- A byte string of any length. -/
  | bytes
  /-- A value of the shape, or `null`. -/
  | orNull (shape : Shape)
  /-- A list of values of the shape. -/
  | list (item : Shape)
  /-- An object with all these members, or an array of their values in this order. -/
  | record (members : List (String × Shape))
  /-- An object with all the `required` members, and some of the `optional` ones.  A member may be
  given under another name of the list `names`, but not under two of its names at once. -/
  | object (names : List (String × String)) (required optional : List (String × Shape))

/-- The members under their first names.  The list `names` has pairs of another name and a first
one. -/
def renamed (names : List (String × String)) (members : List (Literal × Json)) :
    List (Literal × Json) :=
  members.map fun (key, value) => (key.map fun name => (names.lookup name).getD name, value)

namespace Shape

mutual

/-- The value has the shape. -/
def fits (isSpare : Json → Bool) : Shape → Json → Bool
  | .fixed n, v => (v.spareBytes? isSpare n).isSome
  | .number width, v => (v.quantity? width).isSome
  | .bytes, v => v.bytes?.isSome
  | .orNull _, .null => true
  | .orNull shape, v => shape.fits isSpare v
  | .list item, .array items => items.all fun v => item.fits isSpare v
  | .record members, .array values => fitInOrder isSpare members values
  | .record members, .object given =>
    match members? (members.map (·.1)) given with
    | some parts => areThere isSpare members parts
    | none => false
  | .object names required optional, .object given =>
    match members? ((required ++ optional).map (·.1)) (renamed names given) with
    | some parts => areThere isSpare required parts && mayBeThere isSpare optional parts
    | none => false
  | _, _ => false

/-- The values are those of the members, one after the other. -/
def fitInOrder (isSpare : Json → Bool) : List (String × Shape) → List Json → Bool
  | [], [] => true
  | (_, shape) :: members, v :: values =>
    shape.fits isSpare v && fitInOrder isSpare members values
  | _, _ => false

/-- All the members are among the parts. -/
def areThere (isSpare : Json → Bool) : List (String × Shape) → List (String × Json) → Bool
  | [], _ => true
  | (key, shape) :: members, parts =>
    ((parts.lookup key).any fun v => shape.fits isSpare v) && areThere isSpare members parts

/-- Those members that are among the parts have their shape. -/
def mayBeThere (isSpare : Json → Bool) : List (String × Shape) → List (String × Json) → Bool
  | [], _ => true
  | (key, shape) :: members, parts =>
    ((parts.lookup key).all fun v => shape.fits isSpare v) && mayBeThere isSpare members parts

end

end Shape
end Json
end TxForge
