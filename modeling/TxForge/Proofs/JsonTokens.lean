import TxForge.Json.Reader

/-!
# Reading one token

What the reader makes of a single token, at any place that takes it.

A number is the one token that does not say where it ends: the reader is still in it when its last
digit has been read, and leaves it with the next character.  `Reader.IsAt` evens this out: the
reader is at a place if it is between two tokens there, or in a number that leads there.  What comes
next does not make a difference between the two as long as it does not belong to a number.

* `Place.Reads` — a text leads from one place to another.
* `Place.Reads.append` — texts one behind the other lead on.
* `Place.reads_word`, `Place.reads_number`, `Place.reads_literal` — the tokens.
-/

set_option autoImplicit false

namespace TxForge
namespace Json

variable {p p' p'' : Place} {c : Char} {text : List Char}

/-! ## Places and texts -/

/-- The reader is at a place: between two tokens, or in a number that is complete and leads to
it. -/
inductive Reader.IsAt : Reader → Place → Prop
  | between (place : Place) : IsAt ⟨.none, place⟩ place
  | number {phase : Number.Phase} {read : List Char} {place place' : Place}
    (hcomplete : phase.isComplete = true)
    (hplace : place.scalar (.number (.ofChars read.reverse)) = some place') :
    IsAt ⟨.number phase read, place⟩ place'

/-- The character does not belong to a number that could as well end before it. -/
def IsDelimiter (c : Char) : Prop :=
  ∀ phase : Number.Phase, phase.isComplete = true → phase.next? c = none

/-- The text leads from the place to another. -/
def Place.Reads (p : Place) (text : List Char) (p' : Place) : Prop :=
  ∃ r, (⟨.none, p⟩ : Reader).run text = some r ∧ r.IsAt p'

namespace Reader

variable {r : Reader}

theorem run_cons (r : Reader) (c : Char) (text : List Char) :
    r.run (c :: text) = (r.step c).bind fun r' => r'.run text :=
  rfl

theorem run_append (r : Reader) (text text' : List Char) :
    r.run (text ++ text') = (r.run text).bind fun r' => r'.run text' :=
  List.foldlM_append

/-- A number ends with the next character that does not belong to it. -/
theorem IsAt.step_eq (h : r.IsAt p) (hc : IsDelimiter c) : r.step c = fresh p c := by
  cases h with
  | between => rfl
  | number hcomplete hplace =>
    simp only [step, hc _ hcomplete, hcomplete, if_true, hplace, Option.bind_some]

theorem IsAt.result?_eq {v : Json} (h : r.IsAt (.finished v)) : r.result? = some v := by
  cases h with
  | between => rfl
  | number hcomplete hplace => simp only [result?, hcomplete, if_true, hplace]

end Reader

/-- **Texts one behind the other lead on**, if the second does not go on with a number in which the
first ends. -/
theorem Place.Reads.append {text' : List Char} (h : p.Reads text p') (h' : p'.Reads text' p'')
    (hc : ∀ c ∈ text'.head?, IsDelimiter c) : p.Reads (text ++ text') p'' := by
  obtain ⟨r, hrun, hr⟩ := h
  cases text' with
  | nil =>
    obtain ⟨r', hrun', hr'⟩ := h'
    cases hrun'
    cases hr'
    exact ⟨r, by rw [List.append_nil, hrun], hr⟩
  | cons c text' =>
    obtain ⟨r', hrun', hr'⟩ := h'
    refine ⟨r', ?_, hr'⟩
    rw [Reader.run_append, hrun, Option.bind_some, Reader.run_cons, hr.step_eq (hc c rfl)]
    exact hrun'

/-- The text is over at the end of the value. -/
theorem readAs?_eq_some {layout : Layout} {s : String} {v : Json}
    (h : (Place.value layout []).Reads s.toList (.finished v)) : readAs? layout s = some v := by
  obtain ⟨r, hrun, hr⟩ := h
  rw [readAs?, Reader.start, hrun, Option.bind_some, hr.result?_eq]

/-! ## Marks -/

/-- Brackets, braces, comma and colon. -/
def IsMark (c : Char) : Prop :=
  c ∈ ['[', ']', '\x7b', '\x7d', ',', ':']

theorem IsMark.isDelimiter (h : IsMark c) : IsDelimiter c := by
  intro phase hcomplete
  simp only [IsMark, List.mem_cons, List.not_mem_nil, or_false] at h
  rcases h with rfl | rfl | rfl | rfl | rfl | rfl <;> cases phase <;>
    cases hcomplete <;> rfl

theorem fresh_of_isMark (h : IsMark c) : Reader.fresh p c = (p.mark c).map (⟨.none, ·⟩) := by
  simp only [IsMark, List.mem_cons, List.not_mem_nil, or_false] at h
  rcases h with rfl | rfl | rfl | rfl | rfl | rfl <;> cases p <;> rfl

/-- A mark leads to the place behind it. -/
theorem Place.Reads.mark (hc : IsMark c) (hmark : p.mark c = some p') (h : p'.Reads text p'') :
    p.Reads (c :: text) p'' := by
  obtain ⟨r, hrun, hr⟩ := h
  refine ⟨r, ?_, hr⟩
  rw [Reader.run_cons]
  show (Reader.fresh p c).bind _ = _
  rw [fresh_of_isMark hc, hmark]
  exact hrun

theorem Place.reads_mark (hc : IsMark c) (hmark : p.mark c = some p') : p.Reads [c] p' :=
  Place.Reads.mark hc hmark ⟨_, rfl, .between p'⟩

/-! ## Tokens of more than one character -/

/-- No surplus item is looked for at the place. -/
def Place.IsPlain (p : Place) : Prop :=
  ∀ done stack, p ≠ .surplus done stack

theorem Place.isPlain_of_text {s : Literal} (h : p.text s = some p') : p.IsPlain := by
  rintro done stack rfl
  cases h

theorem Place.isPlain_of_scalar {v : Json} (h : p.scalar v = some p') : p.IsPlain := by
  rintro done stack rfl
  cases h

theorem fresh_of_isPlain (h : p.IsPlain) (hc : isBlank c = false) :
    Reader.fresh p c = Reader.token p c := by
  unfold Reader.fresh
  rw [hc]
  cases p with
  | surplus done stack => exact absurd rfl (h done stack)
  | _ => rfl

/-- A token is read from its first character on. -/
theorem Place.Reads.token {r r' : Reader} (h : p.IsPlain) (hc : isBlank c = false)
    (htoken : Reader.token p c = some r) (hrun : r.run text = some r') (hr : r'.IsAt p') :
    p.Reads (c :: text) p' := by
  refine ⟨r', ?_, hr⟩
  rw [Reader.run_cons]
  show (Reader.fresh p c).bind _ = _
  rw [fresh_of_isPlain h hc, htoken]
  exact hrun

/-! ### Words -/

theorem run_word {next : Char} {rest : List Char} {v : Json} :
    (⟨.word next rest v, p⟩ : Reader).run (next :: rest) = (p.scalar v).map (⟨.none, ·⟩) := by
  induction rest generalizing next with
  | nil =>
    rw [Reader.run_cons]
    simp only [Reader.step, if_true]
    cases p.scalar v <;> rfl
  | cons next' rest ih =>
    rw [Reader.run_cons]
    simp only [Reader.step, if_true, Option.bind_some]
    exact ih

theorem Place.reads_word {next : Char} {rest : List Char} {v : Json} (h : p.scalar v = some p')
    (hc : isBlank c = false) (htoken : Reader.token p c = some ⟨.word next rest v, p⟩) :
    p.Reads (c :: next :: rest) p' :=
  Place.Reads.token (isPlain_of_scalar h) hc htoken (by rw [run_word, h]; rfl) (.between p')

/-! ### Numbers -/

/-- The text is a number literal, from its first character to its last. -/
def Number.IsLiteral (text : List Char) : Prop :=
  ∃ c rest start phase, text = c :: rest ∧ Phase.first? c = some start ∧
    rest.foldlM Phase.next? start = some phase ∧ phase.isComplete = true

theorem run_number {start phase : Number.Phase} {read : List Char}
    (h : text.foldlM Number.Phase.next? start = some phase) :
    (⟨.number start read, p⟩ : Reader).run text =
      some ⟨.number phase (text.reverse ++ read), p⟩ := by
  induction text generalizing start read with
  | nil =>
    cases h
    rfl
  | cons c text ih =>
    rw [List.foldlM_cons] at h
    obtain ⟨next, hnext, hrest⟩ := Option.bind_eq_some_iff.1 h
    rw [Reader.run_cons]
    simp only [Reader.step, hnext, Option.bind_some, ih hrest, List.reverse_cons,
      List.append_assoc, List.singleton_append]

/-- A character that starts a number starts no other token. -/
theorem token_of_first? {start : Number.Phase} (h : Number.Phase.first? c = some start) :
    isBlank c = false ∧ Reader.token p c = some ⟨.number start [c], p⟩ := by
  have hne : ∀ d, Number.Phase.first? d = none → c ≠ d := by
    rintro d hd rfl
    rw [hd] at h
    cases h
  refine ⟨?_, ?_⟩
  · simp [isBlank, hne ' ' rfl, hne '\t' rfl, hne '\n' rfl, hne '\r' rfl]
  · rw [Reader.token, if_neg (hne '"' rfl), if_neg (hne 'n' rfl), if_neg (hne 't' rfl),
      if_neg (hne 'f' rfl), h]

theorem Place.reads_number (hliteral : Number.IsLiteral text)
    (h : p.scalar (.number (.ofChars text)) = some p') : p.Reads text p' := by
  obtain ⟨c, rest, start, phase, rfl, hfirst, hrest, hcomplete⟩ := hliteral
  obtain ⟨hblank, htoken⟩ := token_of_first? (p := p) hfirst
  exact Place.Reads.token (isPlain_of_scalar h) hblank htoken (run_number hrest)
    (.number hcomplete (by simpa using h))

/-! ### The digits of a natural number -/

theorem Number.next?_whole (hc : c.isDigit = true) : Phase.next? .whole c = some .whole :=
  if_pos hc

theorem Number.foldlM_whole {digits : List Char} (h : ∀ c ∈ digits, c.isDigit = true) :
    digits.foldlM Phase.next? .whole = some .whole := by
  induction digits with
  | nil => rfl
  | cons c digits ih =>
    rw [List.foldlM_cons, next?_whole (h c (by simp))]
    exact ih fun c' hc' => h c' (by simp [hc'])

/-- A positive number has no leading zero. -/
theorem Number.exists_toDigits_eq_cons {n : Nat} (h : 0 < n) :
    ∃ c rest, Nat.toDigits 10 n = c :: rest ∧ c ≠ '0' := by
  induction n using Nat.strongRecOn with
  | ind n ih =>
    rw [Nat.toDigits_eq_if (by decide)]
    split
    · rename_i hn
      refine ⟨_, [], rfl, ?_⟩
      have hdigit : ∀ d < 10, 0 < d → d.digitChar ≠ '0' := by decide
      exact hdigit n hn h
    · obtain ⟨c, rest, hdigits, hc⟩ := ih (n / 10) (by omega) (by omega)
      exact ⟨c, rest ++ [(n % 10).digitChar], by rw [hdigits, List.cons_append], hc⟩

theorem Number.isDigit_toDigits (n : Nat) : ∀ c ∈ Nat.toDigits 10 n, c.isDigit = true :=
  fun _ hc => Nat.isDigit_of_mem_toDigits (by decide) (by decide) hc

theorem Number.isLiteral_toDigits (n : Nat) : IsLiteral (Nat.toDigits 10 n) := by
  rcases Nat.eq_zero_or_pos n with rfl | hn
  · exact ⟨'0', [], .zero, .zero, rfl, rfl, rfl, rfl⟩
  · obtain ⟨c, rest, hdigits, hc⟩ := exists_toDigits_eq_cons hn
    have hall := isDigit_toDigits n
    rw [hdigits] at hall
    have hdigit := hall c (by simp)
    have hsign : c ≠ '-' := by
      rintro rfl
      cases hdigit
    refine ⟨c, rest, .whole, .whole, hdigits, ?_, foldlM_whole fun c' hc' => hall c' (by simp [hc']),
      rfl⟩
    rw [Phase.first?, if_neg hsign, if_neg hc, if_pos hdigit]

/-- The digits of a number denote it. -/
theorem Number.ofChars_toDigits (n : Nat) : ofChars (Nat.toDigits 10 n) = .natural n := by
  have hall : (Nat.toDigits 10 n).all Char.isDigit = true :=
    List.all_eq_true.2 (isDigit_toDigits n)
  rw [ofChars, if_pos hall]
  exact congrArg Number.natural (Nat.ofDigitChars_toDigits (by decide) (by decide))

/-! ### Strings -/

/-- The piece spells the character, whatever follows. -/
def Piece.Spells (piece : Piece) (c : Char) : Prop :=
  ∀ rest, decode? (piece :: rest) = (decode? rest).map (c :: ·)

theorem Piece.spells_char (c : Char) : (Piece.char c).Spells c :=
  fun _ => rfl

theorem Piece.spells_unit (hc : c.toNat < 32) : (Piece.unit c.toNat).Spells c := by
  intro rest
  have hhigh : isHigh c.toNat = false := by
    simp [isHigh]
    omega
  have hlow : isLow c.toNat = false := by
    simp [isLow]
    omega
  rw [decode?.eq_def]
  simp only [hhigh, hlow, Char.ofNat_toNat, Bool.false_eq_true, if_false]

/-- A four-digit escape is read as the code unit that its digits denote. -/
theorem run_unit {read : List Piece} {a b c d : Char} {u v w x : Nat}
    (ha : Hex.digitValue? a = some u) (hb : Hex.digitValue? b = some v)
    (hc : Hex.digitValue? c = some w) (hd : Hex.digitValue? d = some x) :
    (⟨.text read, p⟩ : Reader).run ['\\', 'u', a, b, c, d] =
      some ⟨.text (.unit (16 * (16 * (16 * u + v) + w) + x) :: read), p⟩ := by
  have hdigit {e : Char} {y : Nat} (he : Hex.digitValue? e = some y) (left value : Nat)
      (rest : List Char) :
      (⟨.unit read (left + 1) value, p⟩ : Reader).run (e :: rest) =
        (⟨.unit read left (16 * value + y), p⟩ : Reader).run rest := by
    rw [Reader.run_cons, Reader.step]
    simp only [he]
    rfl
  show (⟨.unit read 3 0, p⟩ : Reader).run [a, b, c, d] = _
  rw [hdigit ha, hdigit hb, hdigit hc, Reader.run_cons, Reader.step]
  simp only [hd, Nat.mul_zero, Nat.zero_add]
  rfl

/-- An escaped character is read as one piece, which spells it. -/
theorem exists_run_escaped (c : Char) (read : List Piece) :
    ∃ piece, (⟨.text read, p⟩ : Reader).run (escaped c) = some ⟨.text (piece :: read), p⟩ ∧
      piece.Spells c := by
  by_cases hshort : c ∈ ['"', '\\', '\n', '\r', '\t', '\x08', '\x0c']
  · -- the escape is one letter
    simp only [List.mem_cons, List.not_mem_nil, or_false] at hshort
    rcases hshort with rfl | rfl | rfl | rfl | rfl | rfl | rfl <;>
      exact ⟨_, rfl, Piece.spells_char _⟩
  · simp only [List.mem_cons, List.not_mem_nil, or_false, not_or] at hshort
    obtain ⟨hquote, hbackslash, hn, hr, ht, hb, hf⟩ := hshort
    rw [escaped, if_neg hquote, if_neg hbackslash, if_neg hn, if_neg hr, if_neg ht, if_neg hb,
      if_neg hf]
    by_cases hcontrol : c.toNat < 32
    · -- the escape is the number of the character
      have hvalue : ∀ d < 16, Hex.digitValue? d.digitChar = some d := by decide
      have hzero : Hex.digitValue? '0' = some 0 := rfl
      have hhi := hvalue (c.toNat / 16) (by omega)
      have hlo := hvalue (c.toNat % 16) (by omega)
      refine ⟨_, ?_, Piece.spells_unit hcontrol⟩
      rw [if_pos hcontrol, run_unit hzero hzero hhi hlo]
      simp only [Nat.mul_zero, Nat.zero_add, Nat.div_add_mod]
    · refine ⟨_, ?_, Piece.spells_char c⟩
      rw [if_neg hcontrol, Reader.run_cons]
      simp only [Reader.step, if_neg hquote, if_neg hbackslash, if_neg hcontrol]
      rfl

/-- The pieces of a text that is escaped character by character. -/
theorem exists_run_escaped_text (text : List Char) (read : List Piece) :
    ∃ pieces, (⟨.text read, p⟩ : Reader).run (text.flatMap escaped) =
        some ⟨.text (pieces.reverse ++ read), p⟩ ∧ Piece.decode? pieces = some text := by
  induction text generalizing read with
  | nil => exact ⟨[], rfl, rfl⟩
  | cons c text ih =>
    obtain ⟨piece, hpiece, hspells⟩ := exists_run_escaped (p := p) c read
    obtain ⟨pieces, hpieces, hdecode⟩ := ih (piece :: read)
    refine ⟨piece :: pieces, ?_, by rw [hspells, hdecode]; rfl⟩
    rw [List.flatMap_cons, Reader.run_append, hpiece, Option.bind_some, hpieces,
      List.reverse_cons, List.append_assoc, List.singleton_append]

/-- The closing quote ends the literal. -/
theorem run_quote {read : List Piece} (h : p.text (Piece.literal read.reverse) = some p') :
    (⟨.text read, p⟩ : Reader).run ['"'] = some ⟨.none, p'⟩ := by
  show ((p.text (Piece.literal read.reverse)).map (Reader.mk .none)).bind _ = _
  rw [h]
  rfl

theorem Place.reads_literal {s : Literal} (h : p.text s = some p') : p.Reads s.chars p' := by
  cases s with
  | some s =>
    obtain ⟨pieces, hrun, hdecode⟩ := exists_run_escaped_text (p := p) s.toList []
    refine Place.Reads.token (isPlain_of_text h) rfl rfl ?_ (.between p')
    rw [Reader.run_append, hrun, Option.bind_some]
    refine run_quote ?_
    rw [List.append_nil, List.reverse_reverse, Piece.literal, hdecode, Option.map_some,
      String.ofList_toList]
    exact h
  | none =>
    -- the text is that of half a surrogate pair
    refine Place.Reads.token (isPlain_of_text h) rfl rfl ?_ (.between p')
    show (⟨.text [.unit 0xd800], p⟩ : Reader).run ['"'] = _
    exact run_quote h

end Json
end TxForge
