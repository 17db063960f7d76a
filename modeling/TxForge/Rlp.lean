import TxForge.Bytes

/-!
# Recursive length prefix

The serialisation of transactions: trees whose leaves are byte strings.  Every string and every
list is announced by a head that gives its length, and a single byte below 128 stands for itself.

Numbers are written as the shortest byte string that denotes them.
-/

set_option autoImplicit false

namespace TxForge

/-- A tree of byte strings. -/
inductive Rlp where
  | bytes (b : Bytes)
  | list (items : List Rlp)

namespace Rlp

/-- The number `n` as an item. -/
def natural (n : Nat) : Rlp :=
  .bytes (Bytes.bigEndian n)

/-- The head of something `len` bytes long.  Up to 55 the length is added to `base`; behind that
`base + 55` plus the number of bytes of the length is followed by these bytes. -/
def head (base : UInt8) (len : Nat) : Bytes :=
  if len < 56 then [base + UInt8.ofNat len]
  else
    let digits := Bytes.bigEndian len
    (base + 55 + UInt8.ofNat digits.length) :: digits

/-- A byte string with its head. -/
def encodeBytes (b : Bytes) : Bytes :=
  match b with
  | [byte] => if byte < 0x80 then [byte] else [0x81, byte]
  | _ => head 0x80 b.length ++ b

mutual

/-- The bytes of a tree. -/
def encode : Rlp → Bytes
  | .bytes b => encodeBytes b
  | .list items =>
    let body := encodeAll items
    head 0xc0 body.length ++ body

/-- The bytes of several trees, one behind the other. -/
def encodeAll : List Rlp → Bytes
  | [] => []
  | item :: items => item.encode ++ encodeAll items

end

end Rlp
end TxForge
