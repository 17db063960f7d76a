import Mathlib.Data.List.Forall2
import Mathlib.Data.List.Induction
import Mathlib.Data.Nat.Digits.Defs
import TxForge.Hex
import TxForge.Json.Literal
import TxForge.Quantity

/-!
# What digits denote

Texts of byte strings, of quantities and of decimal numbers, each described without the loop that
reads it: as digits behind a marker, one by one for the half bytes or the digits that they stand
for.  Digits come in either case, so a number has many texts, and the readers are shown to take all
of them and no other.

* `Hex.Denotes`, `Hex.decode?_eq_some_iff` — byte strings.
* `Quantity.Denotes`, `Quantity.toNat?_eq_some_iff` — quantities in four radixes, with underscores.
* `Json.Number.toDigits_ofDigits` — a decimal number has one text without a leading zero.
-/

set_option autoImplicit false

namespace TxForge

/-! ## Hexadecimal digits -/

namespace Hex

/-- The character is a digit for `n`, in either case. -/
def IsDigit (n : Nat) (c : Char) : Prop :=
  n < 16 ∧ (c = digit n ∨ c = (digit n).toUpper)

instance (n : Nat) (c : Char) : Decidable (IsDigit n c) :=
  inferInstanceAs (Decidable (_ ∧ _))

theorem digitValue?_of_isDigit {n : Nat} {c : Char} (h : IsDigit n c) :
    digitValue? c = some n := by
  have hvalues : ∀ n < 16, digitValue? (digit n) = some n ∧
      digitValue? (digit n).toUpper = some n := by decide
  obtain ⟨hn, rfl | rfl⟩ := h
  · exact (hvalues n hn).1
  · exact (hvalues n hn).2

/-- The reader of digits knows the sixteen digits in both cases. -/
theorem digitValue?_eq_some_iff {n : Nat} {c : Char} :
    digitValue? c = some n ↔ IsDigit n c := by
  refine ⟨fun h => ?_, digitValue?_of_isDigit⟩
  have hdigits : (∀ n < 10, Char.ofNat (48 + n) = digit n) ∧
      (∀ n < 6, Char.ofNat (97 + n) = digit (10 + n)) ∧
      ∀ n < 6, Char.ofNat (65 + n) = (digit (10 + n)).toUpper := by decide
  obtain ⟨hfigures, hlower, hupper⟩ := hdigits
  rw [digitValue?] at h
  split at h
  · rename_i hc
    cases h
    have hdigit := hfigures (c.toNat - 48) (by omega)
    rw [show 48 + (c.toNat - 48) = c.toNat by omega, Char.ofNat_toNat] at hdigit
    exact ⟨by omega, .inl hdigit⟩
  · split at h
    · rename_i hc
      cases h
      have hdigit := hlower (c.toNat - 97) (by omega)
      rw [show 97 + (c.toNat - 97) = c.toNat by omega, Char.ofNat_toNat,
        show 10 + (c.toNat - 97) = c.toNat - 87 by omega] at hdigit
      exact ⟨by omega, .inl hdigit⟩
    · split at h
      · rename_i hc
        cases h
        have hdigit := hupper (c.toNat - 65) (by omega)
        rw [show 65 + (c.toNat - 65) = c.toNat by omega, Char.ofNat_toNat,
          show 10 + (c.toNat - 65) = c.toNat - 55 by omega] at hdigit
        exact ⟨by omega, .inr hdigit⟩
      · cases h

/-! ## Byte strings -/

/-- The half bytes of a byte string, the high one of each byte first. -/
def halves (b : Bytes) : List Nat :=
  b.flatMap fun byte => [byte.toNat / 16, byte.toNat % 16]

/-- The text has the digits of the byte string, with or without the marker. -/
def Denotes (text : String) (b : Bytes) : Prop :=
  ∃ marker ∈ ["", "0x", "0X"], ∃ digits, text.toList = marker.toList ++ digits ∧
    List.Forall₂ IsDigit (halves b) digits

theorem halves_cons (byte : UInt8) (b : Bytes) :
    halves (byte :: b) = byte.toNat / 16 :: byte.toNat % 16 :: halves b :=
  rfl

theorem bytes?_eq_some_iff : ∀ {text : List Char} {b : Bytes},
    bytes? text = some b ↔ List.Forall₂ IsDigit (halves b) text
  | [], b => by
    cases b with
    | nil => simp [bytes?, halves]
    | cons byte b => simp [bytes?, halves_cons]
  | [c], b => by
    cases b with
    | nil => simp [bytes?, halves]
    | cons byte b => simp [bytes?, halves_cons]
  | hi :: lo :: text, b => by
    constructor
    · intro h
      obtain ⟨u, hu, h⟩ := Option.bind_eq_some_iff.1 h
      obtain ⟨v, hv, h⟩ := Option.bind_eq_some_iff.1 h
      obtain ⟨b', hb', h⟩ := Option.bind_eq_some_iff.1 h
      cases h
      rw [digitValue?_eq_some_iff] at hu hv
      have hlt : 16 * u + v < 256 := by have := hu.1; have := hv.1; omega
      have hbyte : (UInt8.ofNat (16 * u + v)).toNat = 16 * u + v := by
        rw [UInt8.toNat_ofNat', Nat.mod_eq_of_lt hlt]
      rw [halves_cons, hbyte, show (16 * u + v) / 16 = u by have := hv.1; omega,
        show (16 * u + v) % 16 = v by have := hv.1; omega]
      exact .cons hu (.cons hv (bytes?_eq_some_iff.1 hb'))
    · intro h
      cases b with
      | nil => cases h
      | cons byte b =>
        obtain ⟨hhi, h⟩ := List.forall₂_cons.1 h
        obtain ⟨hlo, h⟩ := List.forall₂_cons.1 h
        have hwhole : 16 * (byte.toNat / 16) + byte.toNat % 16 = byte.toNat := by omega
        simp only [bytes?, digitValue?_of_isDigit hhi, digitValue?_of_isDigit hlo,
          bytes?_eq_some_iff.2 h, Option.bind_eq_bind, Option.bind_some, hwhole,
          UInt8.ofNat_toNat]
        rfl

/-- Digits have no marker in front. -/
theorem withoutMarker_of_digits {ns : List Nat} {digits : List Char}
    (h : List.Forall₂ IsDigit ns digits) : withoutMarker digits = digits := by
  have hmark {n : Nat} (h : IsDigit n 'x' ∨ IsDigit n 'X') : False := by
    rcases h with h | h <;> cases digitValue?_of_isDigit h
  unfold withoutMarker
  split
  · cases h with | cons _ h => cases h with | cons h _ => exact (hmark (.inl h)).elim
  · cases h with | cons _ h => cases h with | cons h _ => exact (hmark (.inr h)).elim
  · rfl

/-- **A byte string is read from the texts that denote it**, and from no other. -/
theorem decode?_eq_some_iff {text : String} {b : Bytes} :
    decode? text = some b ↔ Denotes text b := by
  rw [decode?, bytes?_eq_some_iff]
  constructor
  · intro h
    unfold withoutMarker at h
    split at h
    · rename_i rest htext
      exact ⟨"0x", by simp, rest, htext, h⟩
    · rename_i rest htext
      exact ⟨"0X", by simp, rest, htext, h⟩
    · exact ⟨"", by simp, _, rfl, h⟩
  · rintro ⟨marker, hmarker, digits, htext, h⟩
    simp only [List.mem_cons, List.not_mem_nil, or_false] at hmarker
    rw [htext]
    rcases hmarker with rfl | rfl | rfl
    · exact (withoutMarker_of_digits h).symm ▸ h
    · exact h
    · exact h

end Hex

/-! ## Quantities -/

namespace Quantity

/-- The markers of the radixes.  Without one, the radix is ten. -/
def markers : List (String × Nat) :=
  [("", 10), ("0x", 16), ("0X", 16), ("0o", 8), ("0O", 8), ("0b", 2), ("0B", 2)]

/-- The text has digits of the number behind the marker of their radix, and any number of
underscores among them. -/
def Denotes (text : String) (n : Nat) : Prop :=
  ∃ marker radix, (marker, radix) ∈ markers ∧ ∃ body digits,
    text.toList = marker.toList ++ body ∧
      List.Forall₂ Hex.IsDigit digits (body.filter (· ≠ '_')) ∧ (∀ d ∈ digits, d < radix) ∧
        n = Nat.ofDigits radix digits.reverse

/-- Up to sixteen, quantities have the digits of byte strings. -/
theorem digitValue?_eq_some_iff {d : Nat} {c : Char} (hd : d < 16) :
    digitValue? c = some d ↔ Hex.IsDigit d c := by
  rw [← Hex.digitValue?_eq_some_iff, digitValue?, Hex.digitValue?]
  grind

/-- One digit in front shifts by as many places as there are digits behind it. -/
theorem ofDigits_reverse_cons (radix d : Nat) (digits : List Nat) :
    Nat.ofDigits radix (d :: digits).reverse =
      d * radix ^ digits.length + Nat.ofDigits radix digits.reverse := by
  rw [List.reverse_cons, Nat.ofDigits_append, Nat.ofDigits_singleton, List.length_reverse]
  ring

/-- The digits behind a number are read on top of it. -/
theorem readDigits?_eq_some_iff {radix : Nat} (hradix : radix ≤ 16) {text : List Char}
    {m n : Nat} : readDigits? radix text m = some n ↔ ∃ digits,
      List.Forall₂ Hex.IsDigit digits (text.filter (· ≠ '_')) ∧ (∀ d ∈ digits, d < radix) ∧
        n = m * radix ^ digits.length + Nat.ofDigits radix digits.reverse := by
  induction text generalizing m with
  | nil => simp [readDigits?, eq_comm]
  | cons c text ih =>
    rw [readDigits?]
    by_cases hc : c = '_'
    · rw [if_pos hc, ih, List.filter_cons_of_neg (by simpa using hc)]
    rw [if_neg hc, List.filter_cons_of_pos (by simpa using hc)]
    have hshift (d : Nat) (digits : List Nat) :
        (radix * m + d) * radix ^ digits.length + Nat.ofDigits radix digits.reverse =
          m * radix ^ (d :: digits).length + Nat.ofDigits radix (d :: digits).reverse := by
      rw [ofDigits_reverse_cons, List.length_cons, pow_succ]
      ring
    constructor
    · intro h
      split at h
      · rename_i d hd
        split at h
        · rename_i hlt
          obtain ⟨digits, hdigits, hall, hn⟩ := ih.1 h
          refine ⟨d :: digits, .cons ((digitValue?_eq_some_iff (by omega)).1 hd) hdigits, ?_, ?_⟩
          · exact List.forall_mem_cons.2 ⟨hlt, hall⟩
          · rw [hn, hshift]
        · cases h
      · cases h
    · rintro ⟨digits, hdigits, hall, rfl⟩
      cases hdigits with
      | cons hd hdigits =>
        obtain ⟨hlt, hall⟩ := List.forall_mem_cons.1 hall
        rw [(digitValue?_eq_some_iff (by omega)).2 hd]
        simp only [if_pos hlt]
        exact ih.2 ⟨_, hdigits, hall, (hshift _ _).symm⟩

/-- The radix that is taken is that of the marker. -/
theorem radixOf_marker {marker : String} {radix : Nat} (h : (marker, radix) ∈ markers)
    {body : List Char} {digits : List Nat}
    (hdigits : List.Forall₂ Hex.IsDigit digits (body.filter (· ≠ '_')))
    (hall : ∀ d ∈ digits, d < radix) : radixOf (marker.toList ++ body) = (radix, body) := by
  simp only [markers, List.mem_cons, List.not_mem_nil, or_false, Prod.mk.injEq] at h
  rcases h with ⟨rfl, rfl⟩ | ⟨rfl, rfl⟩ | ⟨rfl, rfl⟩ | ⟨rfl, rfl⟩ | ⟨rfl, rfl⟩ | ⟨rfl, rfl⟩ |
    ⟨rfl, rfl⟩
  · -- without a marker, no letter is a digit
    show radixOf body = (10, body)
    have hletter {c : Char} {rest : List Char} (hbody : body = '0' :: c :: rest)
        (hc : c ≠ '_') (hvalue : ∀ d, Hex.digitValue? c = some d → ¬ d < 10) : False := by
      rw [hbody, List.filter_cons_of_pos (by decide),
        List.filter_cons_of_pos (by simpa using hc)] at hdigits
      cases hdigits with
      | cons _ h =>
        cases h with
        | cons hd _ => exact hvalue _ (Hex.digitValue?_of_isDigit hd) (hall _ (by simp))
    unfold radixOf
    split
    all_goals first
      | rfl
      | exact (hletter rfl (by decide) (by decide)).elim
  all_goals rfl

/-- **A quantity is read from the texts that denote it**, and from no other. -/
theorem toNat?_eq_some_iff {text : String} {n : Nat} :
    toNat? text.toList = some n ↔ Denotes text n := by
  constructor
  · intro h
    have hmarker : ∃ marker, (marker, (radixOf text.toList).1) ∈ markers ∧
        text.toList = marker.toList ++ (radixOf text.toList).2 := by
      unfold radixOf
      split <;> rename_i htext
      · exact ⟨"0x", by simp [markers], htext⟩
      · exact ⟨"0X", by simp [markers], htext⟩
      · exact ⟨"0o", by simp [markers], htext⟩
      · exact ⟨"0O", by simp [markers], htext⟩
      · exact ⟨"0b", by simp [markers], htext⟩
      · exact ⟨"0B", by simp [markers], htext⟩
      · exact ⟨"", by simp [markers], rfl⟩
    obtain ⟨marker, hmem, htext⟩ := hmarker
    have hradix : (radixOf text.toList).1 ≤ 16 := by
      have : ∀ pair ∈ markers, pair.2 ≤ 16 := by decide
      exact this _ hmem
    obtain ⟨digits, hdigits, hall, hn⟩ := (readDigits?_eq_some_iff hradix).1 h
    exact ⟨marker, _, hmem, _, digits, htext, hdigits, hall, by simpa using hn⟩
  · rintro ⟨marker, radix, hmem, body, digits, htext, hdigits, hall, rfl⟩
    have hradix : radix ≤ 16 := by
      have : ∀ pair ∈ markers, pair.2 ≤ 16 := by decide
      exact this _ hmem
    rw [toNat?, htext, radixOf_marker hmem hdigits hall]
    exact (readDigits?_eq_some_iff hradix).2 ⟨digits, hdigits, hall, by simp⟩

/-- A text denotes one quantity at most. -/
theorem Denotes.unique {text : String} {m n : Nat} (hm : Denotes text m) (hn : Denotes text n) :
    m = n :=
  Option.some.inj ((toNat?_eq_some_iff.2 hm).symm.trans (toNat?_eq_some_iff.2 hn))

/-- Underscores and leading zeros do not count, and neither does the case. -/
example : Denotes "0x_00_fF" 255 :=
  ⟨"0x", 16, by decide, ['_', '0', '0', '_', 'f', 'F'], [0, 0, 15, 15], by decide,
    by decide, by decide, by decide⟩

end Quantity

/-! ## Decimal numbers -/

namespace Json.Number

theorem ofDigits_concat (digits : List Char) (c : Char) :
    ofDigits (digits ++ [c]) = 10 * ofDigits digits + (c.toNat - 48) := by
  simp [ofDigits]

/-- A figure is the digit of its number. -/
theorem digitChar_of_isDigit {c : Char} (h : c.isDigit = true) :
    c.toNat - 48 < 10 ∧ (c.toNat - 48).digitChar = c := by
  have hfigures : ∀ n < 10, n.digitChar = Char.ofNat (48 + n) := by decide
  obtain ⟨hlow, hhigh⟩ : 48 ≤ c.toNat ∧ c.toNat ≤ 57 := by
    simpa [Char.isDigit, UInt32.le_iff_toNat_le] using h
  refine ⟨by omega, ?_⟩
  rw [hfigures _ (by omega), show 48 + (c.toNat - 48) = c.toNat by omega, Char.ofNat_toNat]

/-- **A number has one decimal text without a leading zero.** -/
theorem toDigits_ofDigits {c : Char} {rest : List Char}
    (hdigits : ∀ d ∈ c :: rest, d.isDigit = true) (hzero : c = '0' → rest = []) :
    Nat.toDigits 10 (ofDigits (c :: rest)) = c :: rest := by
  induction rest using List.reverseRecOn with
  | nil =>
    obtain ⟨hlt, hchar⟩ := digitChar_of_isDigit (hdigits c (by simp))
    have hvalue : ofDigits [c] = c.toNat - 48 := by simp [ofDigits]
    rw [hvalue, Nat.toDigits_of_lt_base hlt, hchar]
  | append_singleton rest d ih =>
    have hc : c ≠ '0' := fun h => by simpa using hzero h
    have hfront := ih (fun e he => hdigits e (by simp at he ⊢; tauto)) fun h => absurd h hc
    obtain ⟨hlt, hchar⟩ := digitChar_of_isDigit (hdigits d (by simp))
    -- the digits in front have a value, since they do not spell zero
    have hpos : 0 < ofDigits (c :: rest) := by
      refine Nat.pos_of_ne_zero fun h => hc ?_
      rw [h] at hfront
      exact (List.cons.inj hfront).1.symm
    rw [← List.cons_append, ofDigits_concat, Nat.toDigits_eq_if (by decide), if_neg (by omega),
      show (10 * ofDigits (c :: rest) + (d.toNat - 48)) / 10 = ofDigits (c :: rest) by omega,
      show (10 * ofDigits (c :: rest) + (d.toNat - 48)) % 10 = d.toNat - 48 by omega, hfront, hchar]

end Json.Number
end TxForge
