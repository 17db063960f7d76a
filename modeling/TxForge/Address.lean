import TxForge.Crypto.Keccak
import TxForge.Crypto.Secp256k1
import TxForge.Hex

/-!
# Addresses

How an address follows from a public point, and how it is shown to people: in mixed case, so that
a mistyped address is noticed.  A letter is upper case where the hash of the lower-case digits has
a half byte of eight or more at the same place.
-/

set_option autoImplicit false

namespace TxForge
namespace Address

/-- The address that belongs to a point: the last 20 bytes of the hash of its coordinates. -/
def ofPoint (a : Secp256k1.Affine) : Address :=
  FixedBytes.ofNat 20
    (Keccak.hash (Bytes.bigEndianPadded 32 a.x ++ Bytes.bigEndianPadded 32 a.y)).toNat

/-- The address in mixed case. -/
def checksummed (a : Address) : String :=
  let digits := Hex.digits a.toBytes
  let hash := Keccak.hash (digits.map fun c => UInt8.ofNat c.toNat)
  let halves := hash.toBytes.flatMap fun byte => [byte.toNat / 16, byte.toNat % 16]
  String.ofList ('0' :: 'x' :: (digits.zip halves).map fun (c, half) =>
    if half < 8 then c else c.toUpper)

end Address
end TxForge
