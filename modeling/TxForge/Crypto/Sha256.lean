import TxForge.Bytes

/-!
# SHA-256 and its keyed form

The hash of FIPS 180-4, and HMAC over it.  Both serve the choice of signature nonces only.  Words
are natural numbers below `2 ^ 32`.
-/

set_option autoImplicit false

namespace TxForge
namespace Sha256

/-! ## Compression -/

/-- The eight words of the chaining value. -/
structure State where
  a : Nat
  b : Nat
  c : Nat
  d : Nat
  e : Nat
  f : Nat
  g : Nat
  h : Nat

/-- The chaining value at the start. -/
def State.initial : State :=
  ⟨0x6a09e667, 0xbb67ae85, 0x3c6ef372, 0xa54ff53a, 0x510e527f, 0x9b05688c, 0x1f83d9ab, 0x5be0cd19⟩

/-- The constants of the 64 rounds. -/
def roundConstants : List Nat :=
  [0x428a2f98, 0x71374491, 0xb5c0fbcf, 0xe9b5dba5, 0x3956c25b, 0x59f111f1, 0x923f82a4, 0xab1c5ed5,
    0xd807aa98, 0x12835b01, 0x243185be, 0x550c7dc3, 0x72be5d74, 0x80deb1fe, 0x9bdc06a7, 0xc19bf174,
    0xe49b69c1, 0xefbe4786, 0x0fc19dc6, 0x240ca1cc, 0x2de92c6f, 0x4a7484aa, 0x5cb0a9dc, 0x76f988da,
    0x983e5152, 0xa831c66d, 0xb00327c8, 0xbf597fc7, 0xc6e00bf3, 0xd5a79147, 0x06ca6351, 0x14292967,
    0x27b70a85, 0x2e1b2138, 0x4d2c6dfc, 0x53380d13, 0x650a7354, 0x766a0abb, 0x81c2c92e, 0x92722c85,
    0xa2bfe8a1, 0xa81a664b, 0xc24b8b70, 0xc76c51a3, 0xd192e819, 0xd6990624, 0xf40e3585, 0x106aa070,
    0x19a4c116, 0x1e376c08, 0x2748774c, 0x34b0bcb5, 0x391c0cb3, 0x4ed8aa4a, 0x5b9cca4f, 0x682e6ff3,
    0x748f82ee, 0x78a5636f, 0x84c87814, 0x8cc70208, 0x90befffa, 0xa4506ceb, 0xbef9a3f7, 0xc67178f2]

/-- All bits of a word. -/
def wordMask : Nat := 0xffffffff

/-- The sum of words as a word. -/
def plus (x y : Nat) : Nat :=
  (x + y) &&& wordMask

/-- The word with all bits changed. -/
def flip (x : Nat) : Nat :=
  wordMask - x

/-- Rotates a word to the right. -/
def rotate (x n : Nat) : Nat :=
  x >>> n ||| (x <<< (32 - n)) &&& wordMask

/-- One round with the sum of its constant and its word of the message. -/
def round (s : State) (word : Nat) : State :=
  let mix1 := rotate s.e 6 ^^^ rotate s.e 11 ^^^ rotate s.e 25
  let choice := (s.e &&& s.f) ^^^ (flip s.e &&& s.g)
  let t1 := s.h + mix1 + choice + word
  let mix0 := rotate s.a 2 ^^^ rotate s.a 13 ^^^ rotate s.a 22
  let majority := (s.a &&& s.b) ^^^ (s.a &&& s.c) ^^^ (s.b &&& s.c)
  ⟨plus t1 (mix0 + majority), s.a, s.b, s.c, plus s.d t1, s.e, s.f, s.g⟩

/-- Adds `n` words to a message schedule that is kept last word first. -/
def extend : Nat → List Nat → List Nat
  | 0, words => words
  | n + 1, words =>
    let w2 := words.getD 1 0
    let w7 := words.getD 6 0
    let w15 := words.getD 14 0
    let w16 := words.getD 15 0
    let mix0 := rotate w15 7 ^^^ rotate w15 18 ^^^ w15 >>> 3
    let mix1 := rotate w2 17 ^^^ rotate w2 19 ^^^ w2 >>> 10
    extend n (plus (w16 + mix0) (w7 + mix1) :: words)

/-- The big-endian words of a byte string. -/
def wordsOf : Bytes → List Nat
  | b0 :: b1 :: b2 :: b3 :: rest => Bytes.toNat [b0, b1, b2, b3] :: wordsOf rest
  | _ => []

/-- Takes one block of 64 bytes into the chaining value. -/
def compress (s : State) (block : Bytes) : State :=
  let schedule := (extend 48 (wordsOf block).reverse).reverse
  let t := (List.zipWith (· + ·) roundConstants schedule).foldl round s
  ⟨plus s.a t.a, plus s.b t.b, plus s.c t.c, plus s.d t.d, plus s.e t.e, plus s.f t.f,
    plus s.g t.g, plus s.h t.h⟩

/-! ## The hash -/

/-- The message with its mark, zeros and length in bits, a whole number of blocks. -/
def pad (b : Bytes) : Bytes :=
  b ++ 0x80 :: (List.replicate ((119 - b.length % 64) % 64) 0
    ++ Bytes.bigEndianPadded 8 (8 * b.length))

/-- Takes `blocks` blocks into the chaining value. -/
def compressAll : Nat → State → Bytes → State
  | 0, s, _ => s
  | blocks + 1, s, b => compressAll blocks (compress s (b.take 64)) (b.drop 64)

/-- The SHA-256 digest of a byte string. -/
def hash (b : Bytes) : Bytes :=
  let padded := pad b
  let s := compressAll (padded.length / 64) .initial padded
  [s.a, s.b, s.c, s.d, s.e, s.f, s.g, s.h].flatMap (Bytes.bigEndianPadded 4)

/-! ## Keyed hashing -/

/-- HMAC-SHA-256 of a message under a key of at most 64 bytes. -/
def hmac (key message : Bytes) : Bytes :=
  let block := key ++ List.replicate (64 - key.length) 0
  let inner := hash (block.map (· ^^^ 0x36) ++ message)
  hash (block.map (· ^^^ 0x5c) ++ inner)

end Sha256
end TxForge
