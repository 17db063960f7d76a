import TxForge.Bytes

/-!
# Keccak-256

The sponge over the permutation of 1600 bits that Ethereum hashes with: rate 136 bytes, digest 32
bytes, and the padding `1 0* 1` of the first submission, without the domain bits of SHA-3.

The state is one natural number of 1600 bits.  Its 25 lanes of 64 bits stand in five rows of five,
lowest first: lane `x + 5 * y` is column `x` of row `y`.  What a step does to whole rows or to the
whole state it does with a few operations on the number.
-/

set_option autoImplicit false

namespace TxForge
namespace Keccak

/-! ## Masks -/

/-- A one in the lowest bit of each lane of a row. -/
def laneOnes : Nat := 1 + 1 <<< 64 + 1 <<< 128 + 1 <<< 192 + 1 <<< 256

/-- A one in the lowest bit of each row. -/
def rowOnes : Nat := 1 + 1 <<< 320 + 1 <<< 640 + 1 <<< 960 + 1 <<< 1280

/-- All bits of a lane. -/
def laneMask : Nat := 1 <<< 64 - 1

/-- All bits of a row. -/
def rowMask : Nat := 1 <<< 320 - 1

/-- All bits of the state. -/
def stateMask : Nat := 1 <<< 1600 - 1

/-! ## The permutation -/

/-- How far each lane is rotated. -/
def offsets : List Nat :=
  [0, 1, 62, 28, 27, 36, 44, 6, 55, 20, 3, 10, 43, 25, 39, 41, 45, 15, 21, 8, 18, 2, 61, 56, 14]

/-- The constants that tell the 24 rounds apart. -/
def roundConstants : List Nat :=
  [0x0000000000000001, 0x0000000000008082, 0x800000000000808a, 0x8000000080008000,
    0x000000000000808b, 0x0000000080000001, 0x8000000080008081, 0x8000000000008009,
    0x000000000000008a, 0x0000000000000088, 0x0000000080008009, 0x000000008000000a,
    0x000000008000808b, 0x800000000000008b, 0x8000000000008089, 0x8000000000008003,
    0x8000000000008002, 0x8000000000000080, 0x000000000000800a, 0x800000008000000a,
    0x8000000080008081, 0x8000000000008080, 0x0000000080000001, 0x8000000080008008]

/-- Adds to each lane the parities of the column before it and, rotated by one, of the column
behind it. -/
def theta (s : Nat) : Nat :=
  let parity := (s ^^^ s >>> 320 ^^^ s >>> 640 ^^^ s >>> 960 ^^^ s >>> 1280) &&& rowMask
  let before := (parity <<< 64) &&& rowMask ||| parity >>> 256
  let behind := parity >>> 64 ||| (parity &&& laneMask) <<< 256
  let rotated := (behind <<< 1) &&& (rowMask - laneOnes) ||| (behind >>> 63) &&& laneOnes
  s ^^^ (before ^^^ rotated) * rowOnes

/-- Rotates a lane to the left. -/
def rotate (lane n : Nat) : Nat :=
  (lane <<< n) &&& laneMask ||| lane >>> (64 - n)

/-- Rotates lane number `i` and those behind it by the offsets, and adds each to `acc` at its new
place: what was in column `x` and row `y` comes to column `y` and row `2 * x + 3 * y`. -/
def moveLanes (s : Nat) : List Nat → Nat → Nat → Nat
  | [], _, acc => acc
  | offset :: rest, i, acc =>
    let x := i % 5
    let y := i / 5
    let place := y + 5 * ((2 * x + 3 * y) % 5)
    let lane := rotate ((s >>> (64 * i)) &&& laneMask) offset
    moveLanes s rest (i + 1) (acc ||| lane <<< (64 * place))

/-- Rotates every lane and moves it to its new place. -/
def rhoPi (s : Nat) : Nat :=
  moveLanes s offsets 0 0

/-- Moves each lane to the place before it in its row, around the row. -/
def shiftRows (s : Nat) : Nat :=
  (s >>> 64) &&& (1 <<< 256 - 1) * rowOnes ||| (s &&& laneMask * rowOnes) <<< 256

/-- Mixes each lane with the two behind it in its row. -/
def chi (s : Nat) : Nat :=
  let next := shiftRows s
  s ^^^ ((next ^^^ stateMask) &&& shiftRows next)

/-- One round. -/
def round (s constant : Nat) : Nat :=
  chi (rhoPi (theta s)) ^^^ constant

/-- All rounds. -/
def permute (s : Nat) : Nat :=
  roundConstants.foldl round s

/-! ## The sponge -/

/-- How many bytes the state takes up at once. -/
def rate : Nat := 136

/-- Fills a last block, shorter than the rate, up to the rate. -/
def pad (b : Bytes) : Bytes :=
  let zeros := rate - b.length - 1
  if zeros = 0 then b ++ [0x81] else b ++ 0x01 :: (List.replicate (zeros - 1) 0 ++ [0x80])

/-- Adds a block to the state and permutes it. -/
def absorb (s : Nat) (block : Bytes) : Nat :=
  permute (s ^^^ Bytes.toNat block.reverse)

/-- Takes up `blocks` full blocks of a message, and then what is left of it, padded. -/
def absorbAll : Nat → Nat → Bytes → Nat
  | 0, s, b => absorb s (pad b)
  | blocks + 1, s, b => absorbAll blocks (absorb s (b.take rate)) (b.drop rate)

/-- The Keccak-256 digest of a byte string: the lowest bytes of the state, lowest first. -/
def hash (b : Bytes) : Word :=
  ⟨(Bytes.bigEndianPadded 32 (absorbAll (b.length / rate) 0 b)).reverse, by simp⟩

end Keccak
end TxForge
