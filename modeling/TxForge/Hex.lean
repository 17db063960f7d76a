import TxForge.Bytes

/-!
# Hexadecimal text

Byte strings are written with two lower-case digits a byte behind the marker `0x`, and numbers as
their shortest digits behind the same marker.  The reader takes digits of either case and does
without the marker, but it wants whole bytes.
-/

set_option autoImplicit false

namespace TxForge
namespace Hex

/-! ## Digits -/

/-- The digit, in lower case, for a number below sixteen. -/
def digit (n : Nat) : Char :=
  if n < 10 then Char.ofNat (48 + n) else Char.ofNat (87 + n)

/-- The number a digit stands for, in either case. -/
def digitValue? (c : Char) : Option Nat :=
  let n := c.toNat
  if 48 ≤ n ∧ n ≤ 57 then some (n - 48)
  else if 97 ≤ n ∧ n ≤ 102 then some (n - 87)
  else if 65 ≤ n ∧ n ≤ 70 then some (n - 55)
  else none

/-! ## Byte strings -/

/-- The two digits of a byte, high half first. -/
def pair (byte : UInt8) : List Char :=
  [digit (byte.toNat / 16), digit (byte.toNat % 16)]

/-- The digits of a byte string, without the marker. -/
def digits (b : Bytes) : List Char :=
  b.flatMap pair

/-- A byte string as text: the marker and two digits a byte. -/
def encode (b : Bytes) : String :=
  String.ofList ('0' :: 'x' :: digits b)

/-- The bytes that pairs of digits stand for. -/
def bytes? : List Char → Option Bytes
  | [] => some []
  | [_] => none
  | hi :: lo :: rest => do
    let h ← digitValue? hi
    let l ← digitValue? lo
    let tail ← bytes? rest
    return UInt8.ofNat (16 * h + l) :: tail

/-- The text behind the marker, if there is one. -/
def withoutMarker : List Char → List Char
  | '0' :: 'x' :: rest => rest
  | '0' :: 'X' :: rest => rest
  | text => text

/-- Reads a byte string, with or without the marker. -/
def decode? (text : String) : Option Bytes :=
  bytes? (withoutMarker text.toList)

/-- Reads a byte string of exactly `n` bytes, with or without the marker. -/
def decodeFixed? (n : Nat) (text : String) : Option (FixedBytes n) :=
  (decode? text).bind (FixedBytes.ofBytes? n)

/-! ## Numbers -/

/-- A number as text: the marker and the shortest digits, a single zero for zero. -/
def quantity (n : Nat) : String :=
  String.ofList ('0' :: 'x' :: Nat.toDigits 16 n)

/-! ## Laws -/

theorem digitValue?_digit : ∀ {n : Nat}, n < 16 → digitValue? (digit n) = some n := by
  decide

theorem bytes?_pair_append (byte : UInt8) (rest : List Char) :
    bytes? (pair byte ++ rest) = (bytes? rest).map (byte :: ·) := by
  have hi : byte.toNat / 16 < 16 := by have := byte.toNat_lt; omega
  have lo : byte.toNat % 16 < 16 := by omega
  have whole : 16 * (byte.toNat / 16) + byte.toNat % 16 = byte.toNat := by omega
  simp only [pair, List.cons_append, List.nil_append, bytes?, digitValue?_digit hi,
    digitValue?_digit lo, Option.bind_eq_bind, Option.bind_some, whole, UInt8.ofNat_toNat]
  cases bytes? rest <;> rfl

/-- The digits of a byte string read back as it. -/
@[simp] theorem bytes?_digits (b : Bytes) : bytes? (digits b) = some b := by
  induction b with
  | nil => rfl
  | cons byte rest ih =>
    show bytes? (pair byte ++ digits rest) = _
    rw [bytes?_pair_append, ih]
    rfl

/-- A byte string that was written reads back. -/
@[simp] theorem decode?_encode (b : Bytes) : decode? (encode b) = some b := by
  simp [decode?, encode, withoutMarker]

@[simp] theorem decodeFixed?_encode {n : Nat} (b : FixedBytes n) :
    decodeFixed? n (encode b.toBytes) = some b := by
  simp [decodeFixed?]

end Hex

namespace FixedBytes

/-- A fixed byte string as lower-case hexadecimal text. -/
def hex {n : Nat} (b : FixedBytes n) : String :=
  Hex.encode b.toBytes

end FixedBytes
end TxForge
