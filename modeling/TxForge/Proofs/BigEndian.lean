import Mathlib.Algebra.Group.Nat.Defs
import Mathlib.Data.List.Induction
import TxForge.Bytes

/-!
# Numbers as bytes

What is written of a number is enough to read it back.

* `Bytes.toNat_bigEndian` — the shortest string that denotes a number denotes it.
* `Bytes.length_bigEndian_le` — and is no longer than the number needs.
* `Bytes.length_bigEndian_mono` — a greater number never has a shorter one.
-/

set_option autoImplicit false

namespace TxForge
namespace Bytes

/-- What is cut off of a number are the bytes above those it is written in. -/
theorem toNat_bigEndianPadded (len n : Nat) : toNat (bigEndianPadded len n) = n % 256 ^ len := by
  induction len generalizing n with
  | zero => rw [bigEndianPadded, toNat_nil, Nat.pow_zero, Nat.mod_one]
  | succ len ih =>
    have hlast : (UInt8.ofNat n).toNat = n % 256 := UInt8.toNat_ofNat'
    rw [bigEndianPadded, toNat_concat, ih, hlast, Nat.pow_succ', Nat.mod_mul, Nat.add_comm]

/-- Zeros in front do not count. -/
theorem toNat_dropWhile_zero (b : Bytes) : toNat (b.dropWhile (· == 0)) = toNat b := by
  induction b with
  | nil => rfl
  | cons byte rest ih =>
    by_cases h : byte = 0
    · subst h
      exact ih
    · rw [List.dropWhile_cons_of_neg (by simpa using h)]

theorem lt_pow_widthOf (n : Nat) : n < 256 ^ widthOf n := by
  have hwidth : n.log2 + 1 ≤ 8 * widthOf n := by
    rw [widthOf]
    omega
  calc n < 2 ^ (n.log2 + 1) := Nat.lt_log2_self
    _ ≤ 2 ^ (8 * widthOf n) := Nat.pow_le_pow_right (by decide) hwidth
    _ = 256 ^ widthOf n := Nat.pow_mul 2 8 (widthOf n)

/-- **A number can be read from the shortest string that denotes it.** -/
theorem toNat_bigEndian (n : Nat) : toNat (bigEndian n) = n := by
  rw [bigEndian, toNat_dropWhile_zero, toNat_bigEndianPadded, Nat.mod_eq_of_lt (lt_pow_widthOf n)]

theorem bigEndian_inj {m n : Nat} : bigEndian m = bigEndian n ↔ m = n := by
  refine ⟨fun h => ?_, congrArg bigEndian⟩
  rw [← toNat_bigEndian m, h, toNat_bigEndian]

theorem bigEndian_ne_nil {n : Nat} (h : n ≠ 0) : bigEndian n ≠ [] := by
  intro hnil
  rw [← toNat_bigEndian n, hnil] at h
  exact h rfl

theorem widthOf_le {n k : Nat} (hk : 0 < k) (h : n < 256 ^ k) : widthOf n ≤ k := by
  by_cases hn : n = 0
  · subst hn
    exact hk
  · have hlog : n.log2 < 8 * k := by
      rw [Nat.log2_lt hn, Nat.pow_mul]
      exact h
    rw [widthOf]
    omega

theorem length_bigEndian_le {n k : Nat} (hk : 0 < k) (h : n < 256 ^ k) :
    (bigEndian n).length ≤ k := by
  have hdrop := (List.dropWhile_sublist (· == 0) (l := bigEndianPadded (widthOf n) n)).length_le
  rw [length_bigEndianPadded] at hdrop
  exact Nat.le_trans hdrop (widthOf_le hk h)

/-- A string is too short for numbers from this one on. -/
theorem toNat_lt (b : Bytes) : toNat b < 256 ^ b.length := by
  induction b using List.reverseRecOn with
  | nil => decide
  | append_singleton rest byte ih =>
    have hbyte := byte.toNat_lt
    rw [toNat_concat, List.length_append, List.length_singleton, Nat.pow_succ]
    omega

theorem length_bigEndian_mono {m n : Nat} (h : m ≤ n) :
    (bigEndian m).length ≤ (bigEndian n).length := by
  by_cases hm : m = 0
  · subst hm
    exact Nat.zero_le _
  · have hpos : 0 < (bigEndian n).length := List.length_pos_iff.2 (bigEndian_ne_nil (by omega))
    have hlt := toNat_lt (bigEndian n)
    rw [toNat_bigEndian] at hlt
    exact length_bigEndian_le hpos (Nat.lt_of_le_of_lt h hlt)

end Bytes
end TxForge
