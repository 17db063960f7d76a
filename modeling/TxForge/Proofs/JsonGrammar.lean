import TxForge.Proofs.Digits
import TxForge.Proofs.JsonText

/-!
# The grammar of JSON text

Which texts spell which values, said by the grammar alone and without a reader.  A value has many
texts: blanks may stand between any two tokens, a character of a string may be given by an escape,
and the members of an object stand in any order.

* `Json.Number.Spells` — number literals.  `Json.Number.isLiteral_iff` says that the phases of the
  reader go through these literals and no others.
* `Json.Glyph`, `Json.Literal.Spells` — string literals, character by character.
* `Json.Spells`, `Json.IsText` — values, without and with blanks around them.
-/

set_option autoImplicit false

namespace TxForge
namespace Json

/-- What is asked of the characters of a text is decided one by one, and not by a search through all
the characters that there are. -/
instance decidableForallMem {p : Char → Prop} [DecidablePred p] (text : List Char) :
    Decidable (∀ c ∈ text, p c) :=
  List.decidableBAll p text

/-- There is nothing but blanks. -/
def AreBlank (text : List Char) : Prop :=
  ∀ c ∈ text, isBlank c = true

instance (text : List Char) : Decidable (AreBlank text) :=
  inferInstanceAs (Decidable (∀ c ∈ text, isBlank c = true))

/-! ## Number literals -/

namespace Number

/-- One figure or more. -/
def AreDigits (text : List Char) : Prop :=
  text ≠ [] ∧ ∀ c ∈ text, c.isDigit = true

/-- The fraction of a literal, which may be left out. -/
inductive IsFraction : List Char → Prop
  | none : IsFraction []
  | digits {digits : List Char} (h : AreDigits digits) : IsFraction ('.' :: digits)

/-- The exponent of a literal, which may be left out. -/
inductive IsExponent : List Char → Prop
  | none : IsExponent []
  | digits {mark : Char} {sign digits : List Char} (hmark : mark = 'e' ∨ mark = 'E')
    (hsign : sign = [] ∨ sign = ['+'] ∨ sign = ['-']) (h : AreDigits digits) :
    IsExponent (mark :: (sign ++ digits))

/-- What follows the whole part of a literal. -/
def IsTail (text : List Char) : Prop :=
  ∃ fraction exponent, text = fraction ++ exponent ∧ IsFraction fraction ∧ IsExponent exponent

/-- The text is a literal of the number. -/
inductive Spells : List Char → Number → Prop
  | natural (n : Nat) : Spells (Nat.toDigits 10 n) (.natural n)
  | spelled {sign tail : List Char} (whole : Nat) (hsign : sign = [] ∨ sign = ['-'])
    (htail : IsTail tail) (h : sign ≠ [] ∨ tail ≠ []) :
    Spells (sign ++ (Nat.toDigits 10 whole ++ tail))
      (.spelled (String.ofList (sign ++ (Nat.toDigits 10 whole ++ tail))))

/-! ### Phases and what they allow -/

/-- Figures, none or more, and then the rest. -/
def Leads (rest : List Char → Prop) (text : List Char) : Prop :=
  ∃ digits text', text = digits ++ text' ∧ (∀ c ∈ digits, c.isDigit = true) ∧ rest text'

/-- What may follow in a literal when the reader is in the phase. -/
def Phase.Allows : Phase → List Char → Prop
  | .sign, text => ∃ whole tail, text = Nat.toDigits 10 whole ++ tail ∧ IsTail tail
  | .zero, text => IsTail text
  | .whole, text => Leads IsTail text
  | .point, text => ∃ c text', text = c :: text' ∧ c.isDigit = true ∧ Leads IsExponent text'
  | .fraction, text => Leads IsExponent text
  | .mark, text => ∃ sign digits, text = sign ++ digits ∧
    (sign = [] ∨ sign = ['+'] ∨ sign = ['-']) ∧ AreDigits digits
  | .markSign, text => AreDigits text
  | .exponent, text => ∀ c ∈ text, c.isDigit = true

variable {c : Char} {text : List Char} {rest : List Char → Prop}

theorem leads_nil : Leads rest [] ↔ rest [] := by
  constructor
  · rintro ⟨digits, text', h, -, hrest⟩
    obtain ⟨-, rfl⟩ := List.append_eq_nil_iff.1 h.symm
    exact hrest
  · exact fun h => ⟨[], [], rfl, nofun, h⟩

theorem leads_cons :
    Leads rest (c :: text) ↔ (c.isDigit = true ∧ Leads rest text) ∨ rest (c :: text) := by
  constructor
  · rintro ⟨digits, text', h, hdigits, hrest⟩
    cases digits with
    | nil => exact .inr (h ▸ hrest)
    | cons d digits =>
      obtain ⟨rfl, rfl⟩ := List.cons.inj h
      obtain ⟨hd, hdigits⟩ := List.forall_mem_cons.1 hdigits
      exact .inl ⟨hd, digits, text', rfl, hdigits, hrest⟩
  · rintro (⟨hc, digits, text', rfl, hdigits, hrest⟩ | h)
    · exact ⟨c :: digits, text', rfl, List.forall_mem_cons.2 ⟨hc, hdigits⟩, hrest⟩
    · exact ⟨[], _, rfl, nofun, h⟩

theorem areDigits_cons :
    AreDigits (c :: text) ↔ c.isDigit = true ∧ ∀ d ∈ text, d.isDigit = true := by
  simp [AreDigits]

theorem areDigits_iff_exists :
    AreDigits text ↔ ∃ c text', text = c :: text' ∧ c.isDigit = true ∧
      ∀ d ∈ text', d.isDigit = true := by
  cases text <;> simp [AreDigits]

theorem isExponent_cons :
    IsExponent (c :: text) ↔ (c = 'e' ∨ c = 'E') ∧ Phase.Allows .mark text := by
  constructor
  · rintro ⟨⟩
    rename_i sign digits hsign h hmark
    exact ⟨hmark, sign, digits, rfl, hsign, h⟩
  · rintro ⟨hmark, sign, digits, rfl, hsign, h⟩
    exact .digits hmark hsign h

theorem isTail_cons : IsTail (c :: text) ↔
    (c = '.' ∧ Phase.Allows .point text) ∨ (c = 'e' ∨ c = 'E') ∧ Phase.Allows .mark text := by
  constructor
  · rintro ⟨fraction, exponent, h, hfraction, hexponent⟩
    cases hfraction with
    | none => exact .inr (isExponent_cons.1 (h ▸ hexponent))
    | digits hdigits =>
      obtain ⟨rfl, rfl⟩ := List.cons.inj h
      obtain ⟨d, digits, rfl, hd, hdigits⟩ := areDigits_iff_exists.1 hdigits
      exact .inl ⟨rfl, d, _, rfl, hd, digits, exponent, rfl, hdigits, hexponent⟩
  · rintro (⟨rfl, d, -, rfl, hd, digits, exponent, rfl, hdigits, hexponent⟩ | h)
    · exact ⟨'.' :: d :: digits, exponent, rfl, .digits (areDigits_cons.2 ⟨hd, hdigits⟩), hexponent⟩
    · exact ⟨[], c :: text, rfl, .none, isExponent_cons.2 h⟩

theorem isTail_nil : IsTail [] :=
  ⟨[], [], rfl, .none, .none⟩

/-- A whole part starts with its only zero, or with another figure. -/
theorem allows_sign_cons : Phase.Allows .sign (c :: text) ↔
    (c = '0' ∧ IsTail text) ∨ (c ≠ '0' ∧ c.isDigit = true ∧ Leads IsTail text) := by
  constructor
  · rintro ⟨whole, tail, h, htail⟩
    rcases Nat.eq_zero_or_pos whole with rfl | hpos
    · obtain ⟨rfl, rfl⟩ := List.cons.inj h
      exact .inl ⟨rfl, htail⟩
    · obtain ⟨d, digits, hdigits, hd⟩ := exists_toDigits_eq_cons hpos
      have hall := isDigit_toDigits whole
      rw [hdigits] at h hall
      obtain ⟨rfl, rfl⟩ := List.cons.inj h
      obtain ⟨hfigure, hall⟩ := List.forall_mem_cons.1 hall
      exact .inr ⟨hd, hfigure, digits, tail, rfl, hall, htail⟩
  · rintro (⟨rfl, htail⟩ | ⟨hc, hfigure, digits, tail, rfl, hall, htail⟩)
    · exact ⟨0, text, rfl, htail⟩
    · refine ⟨ofDigits (c :: digits), tail, ?_, htail⟩
      rw [toDigits_ofDigits (List.forall_mem_cons.2 ⟨hfigure, hall⟩) fun h => absurd h hc]
      rfl

/-- The sign of an exponent is optional. -/
theorem allows_mark_cons : Phase.Allows .mark (c :: text) ↔
    (c.isDigit = true ∧ ∀ d ∈ text, d.isDigit = true) ∨ (c = '+' ∨ c = '-') ∧ AreDigits text := by
  constructor
  · rintro ⟨sign, digits, h, hsign, hdigits⟩
    rcases hsign with rfl | rfl | rfl
    · exact .inl (areDigits_cons.1 (h ▸ hdigits))
    · obtain ⟨rfl, rfl⟩ := List.cons.inj h
      exact .inr ⟨.inl rfl, hdigits⟩
    · obtain ⟨rfl, rfl⟩ := List.cons.inj h
      exact .inr ⟨.inr rfl, hdigits⟩
  · rintro (h | ⟨rfl | rfl, h⟩)
    · exact ⟨[], c :: text, rfl, .inl rfl, areDigits_cons.2 h⟩
    · exact ⟨['+'], text, rfl, .inr (.inl rfl), h⟩
    · exact ⟨['-'], text, rfl, .inr (.inr rfl), h⟩

/-- A literal may end in the phases in which nothing has to follow. -/
theorem allows_nil {phase : Phase} : phase.Allows [] ↔ phase.isComplete = true := by
  cases phase with
  | sign =>
    refine iff_of_false ?_ (by simp [Phase.isComplete])
    rintro ⟨whole, tail, h, -⟩
    exact Nat.toDigits_ne_nil (List.append_eq_nil_iff.1 h.symm).1
  | zero => exact iff_of_true isTail_nil rfl
  | whole => exact iff_of_true (leads_nil.2 isTail_nil) rfl
  | point => simp [Phase.Allows, Phase.isComplete]
  | fraction => exact iff_of_true (leads_nil.2 .none) rfl
  | mark =>
    refine iff_of_false ?_ (by simp [Phase.isComplete])
    rintro ⟨sign, digits, h, -, hdigits⟩
    exact hdigits.1 (List.append_eq_nil_iff.1 h.symm).2
  | markSign => simp [Phase.Allows, AreDigits, Phase.isComplete]
  | exponent => simp [Phase.Allows, Phase.isComplete]

/-- A phase goes on with the characters that it allows, and the next phase allows what is left. -/
theorem allows_cons {phase : Phase} :
    phase.Allows (c :: text) ↔ ∃ next, phase.next? c = some next ∧ next.Allows text := by
  have hfigure : c.isDigit = true → c ≠ '.' ∧ c ≠ 'e' ∧ c ≠ 'E' ∧ c ≠ '+' ∧ c ≠ '-' := by
    intro h
    refine ⟨?_, ?_, ?_, ?_, ?_⟩ <;> rintro rfl <;> cases h
  cases phase with
  | sign =>
    rw [allows_sign_cons, Phase.next?]
    split_ifs <;> simp_all [Phase.Allows]
  | zero =>
    show IsTail (c :: text) ↔ _
    rw [isTail_cons, Phase.next?]
    split_ifs <;> simp_all
  | whole =>
    show Leads IsTail (c :: text) ↔ _
    rw [leads_cons, isTail_cons, Phase.next?]
    split_ifs <;> simp_all [Phase.Allows]
  | point =>
    rw [Phase.next?]
    split_ifs <;> simp_all [Phase.Allows]
  | fraction =>
    show Leads IsExponent (c :: text) ↔ _
    rw [leads_cons, isExponent_cons, Phase.next?]
    split_ifs <;> simp_all [Phase.Allows]
  | mark =>
    rw [allows_mark_cons, Phase.next?]
    split_ifs <;> simp_all [Phase.Allows]
  | markSign =>
    show AreDigits (c :: text) ↔ _
    rw [areDigits_cons, Phase.next?]
    split_ifs <;> simp_all [Phase.Allows]
  | exponent =>
    rw [Phase.next?]
    split_ifs <;> simp_all [Phase.Allows]

/-- The phases go through what they allow. -/
theorem allows_iff {phase : Phase} : phase.Allows text ↔
    ∃ last, text.foldlM Phase.next? phase = some last ∧ last.isComplete = true := by
  induction text generalizing phase with
  | nil => simp [allows_nil]
  | cons c text ih =>
    rw [allows_cons, List.foldlM_cons]
    constructor
    · rintro ⟨next, hnext, h⟩
      rw [hnext]
      exact ih.1 h
    · rintro ⟨last, h, hcomplete⟩
      obtain ⟨next, hnext, h⟩ := Option.bind_eq_some_iff.1 h
      exact ⟨next, hnext, ih.2 ⟨last, h, hcomplete⟩⟩

/-! ### Literals and their numbers -/

theorem first?_eq_some_iff {start : Phase} : Phase.first? c = some start ↔
    (c = '-' ∧ start = .sign) ∨ Phase.next? .sign c = some start := by
  rw [Phase.first?, Phase.next?]
  by_cases hsign : c = '-'
  · subst hsign
    simp [eq_comm]
  · rw [if_neg hsign]
    simp [hsign]

/-- A literal is a whole part with what follows it, behind a minus sign or without one. -/
theorem isLiteral_iff_allows : IsLiteral text ↔
    ∃ sign text', text = sign ++ text' ∧ (sign = [] ∨ sign = ['-']) ∧
      Phase.Allows .sign text' := by
  constructor
  · rintro ⟨c, rest, start, last, rfl, hfirst, hrest, hcomplete⟩
    have hstart : start.Allows rest := allows_iff.2 ⟨last, hrest, hcomplete⟩
    rcases first?_eq_some_iff.1 hfirst with ⟨rfl, rfl⟩ | hnext
    · exact ⟨['-'], rest, rfl, .inr rfl, hstart⟩
    · exact ⟨[], c :: rest, rfl, .inl rfl, allows_cons.2 ⟨start, hnext, hstart⟩⟩
  · rintro ⟨sign, text', rfl, rfl | rfl, h⟩
    · cases text' with
      | nil => cases allows_nil.1 h
      | cons c rest =>
        obtain ⟨start, hnext, hstart⟩ := allows_cons.1 h
        obtain ⟨last, hrest, hcomplete⟩ := allows_iff.1 hstart
        exact ⟨c, rest, start, last, rfl, first?_eq_some_iff.2 (.inr hnext), hrest, hcomplete⟩
    · obtain ⟨last, hrest, hcomplete⟩ := allows_iff.1 h
      exact ⟨'-', text', .sign, last, rfl, rfl, hrest, hcomplete⟩

/-- **The reader knows the number literals of the grammar**, and no other texts. -/
theorem isLiteral_iff : IsLiteral text ↔ ∃ n, Spells text n := by
  rw [isLiteral_iff_allows]
  constructor
  · rintro ⟨sign, text', rfl, hsign, whole, tail, rfl, htail⟩
    by_cases h : sign ≠ [] ∨ tail ≠ []
    · exact ⟨_, .spelled whole hsign htail h⟩
    · simp only [ne_eq, not_or, not_not] at h
      obtain ⟨rfl, rfl⟩ := h
      exact ⟨_, by simpa using Spells.natural whole⟩
  · rintro ⟨n, h⟩
    cases h with
    | natural n => exact ⟨[], _, rfl, .inl rfl, n, [], (List.append_nil _).symm, isTail_nil⟩
    | spelled whole hsign htail _ => exact ⟨_, _, rfl, hsign, whole, _, rfl, htail⟩

/-- What follows a whole part starts with no figure. -/
theorem IsTail.not_isDigit (h : IsTail (c :: text)) : c.isDigit = false := by
  rcases isTail_cons.1 h with ⟨rfl, -⟩ | ⟨rfl | rfl, -⟩ <;> rfl

/-- A literal is read as its number. -/
theorem Spells.ofChars_eq {n : Number} (h : Spells text n) : ofChars text = n := by
  cases h with
  | natural n => exact ofChars_toDigits n
  | @spelled sign tail whole hsign htail h =>
    rw [ofChars, if_neg]
    rw [List.all_append, List.all_append]
    rcases h with hsign' | htail'
    · obtain rfl := hsign.resolve_left hsign'
      simp
    · obtain ⟨c, text', rfl⟩ := List.exists_cons_of_ne_nil htail'
      simp [htail.not_isDigit]

theorem Spells.isLiteral {n : Number} (h : Spells text n) : IsLiteral text :=
  isLiteral_iff.2 ⟨n, h⟩

/-- A number that a literal spells is one that can be written again. -/
theorem Spells.isWritten {n : Number} (h : Spells text n) : n.IsWritten := by
  cases h with
  | natural n => trivial
  | spelled whole hsign htail hspelled =>
    have h := Spells.spelled whole hsign htail hspelled
    have hchars := h.ofChars_eq
    refine ⟨by rw [String.toList_ofList]; exact h.isLiteral, ?_⟩
    rw [String.toList_ofList]
    by_contra hdigits
    rw [ofChars, if_pos (by simpa using hdigits)] at hchars
    cases hchars

/-- The only text of a natural number is its shortest. -/
theorem Spells.eq_toDigits {n : Nat} (h : Spells text (.natural n)) :
    text = Nat.toDigits 10 n := by
  cases h
  rfl

end Number

/-! ## String literals -/

/-- The escapes of one letter, each with the character that it stands for. -/
def shortEscapes : List (Char × Char) :=
  [('"', '"'), ('\\', '\\'), ('/', '/'), ('b', '\x08'), ('f', '\x0c'), ('n', '\n'), ('r', '\r'),
    ('t', '\t')]

/-- The text is one character or escape of a string literal. -/
inductive Glyph : List Char → Piece → Prop
  | plain {c : Char} (hquote : c ≠ '"') (hbackslash : c ≠ '\\') (hcontrol : 32 ≤ c.toNat) :
    Glyph [c] (.char c)
  | short {letter c : Char} (h : (letter, c) ∈ shortEscapes) : Glyph ['\\', letter] (.char c)
  | unit {a b c d : Char} {u v w x : Nat} (ha : Hex.IsDigit u a) (hb : Hex.IsDigit v b)
    (hc : Hex.IsDigit w c) (hd : Hex.IsDigit x d) :
    Glyph ['\\', 'u', a, b, c, d] (.unit (16 * (16 * (16 * u + v) + w) + x))

/-- One character or escape after the other. -/
inductive Glyphs : List Char → List Piece → Prop
  | nil : Glyphs [] []
  | cons {text rest : List Char} {piece : Piece} {pieces : List Piece} (h : Glyph text piece)
    (hrest : Glyphs rest pieces) : Glyphs (text ++ rest) (piece :: pieces)

/-- The text is a literal of the string. -/
inductive Literal.Spells : List Char → Literal → Prop
  | quoted {text : List Char} {pieces : List Piece} (h : Glyphs text pieces) :
    Spells ('"' :: (text ++ ['"'])) (Piece.literal pieces)

/-- The text is a literal of the key, with blanks around it. -/
inductive IsKey : List Char → Literal → Prop
  | padded {before text after : List Char} {key : Literal} (hbefore : AreBlank before)
    (h : Literal.Spells text key) (hafter : AreBlank after) :
    IsKey (before ++ (text ++ after)) key

/-! ## Values -/

mutual

/-- The text spells the value. -/
inductive Spells : List Char → Json → Prop
  | null : Spells ['n', 'u', 'l', 'l'] .null
  | true : Spells ['t', 'r', 'u', 'e'] (.bool true)
  | false : Spells ['f', 'a', 'l', 's', 'e'] (.bool false)
  | number {text : List Char} {n : Number} (h : Number.Spells text n) : Spells text (.number n)
  | string {text : List Char} {s : Literal} (h : Literal.Spells text s) : Spells text (.string s)
  | noItems {gap : List Char} (h : AreBlank gap) : Spells ('[' :: (gap ++ [']'])) (.array [])
  | items {text : List Char} {items : List Json} (h : SpellsItems text items) :
    Spells ('[' :: (text ++ [']'])) (.array items)
  | noMembers {gap : List Char} (h : AreBlank gap) :
    Spells ('\x7b' :: (gap ++ ['\x7d'])) (.object [])
  | members {text : List Char} {members : List (Literal × Json)} (h : SpellsMembers text members) :
    Spells ('\x7b' :: (text ++ ['\x7d'])) (.object members)

/-- The text spells the value, with blanks around it. -/
inductive IsText : List Char → Json → Prop
  | padded {before text after : List Char} {v : Json} (hbefore : AreBlank before)
    (h : Spells text v) (hafter : AreBlank after) : IsText (before ++ (text ++ after)) v

/-- The text spells the items of an array, one at least. -/
inductive SpellsItems : List Char → List Json → Prop
  | one {text : List Char} {v : Json} (h : IsText text v) : SpellsItems text [v]
  | cons {text rest : List Char} {v : Json} {items : List Json} (h : IsText text v)
    (hrest : SpellsItems rest items) : SpellsItems (text ++ ',' :: rest) (v :: items)

/-- The text spells the members of an object, one at least. -/
inductive SpellsMembers : List Char → List (Literal × Json) → Prop
  | one {ktext text : List Char} {key : Literal} {v : Json} (hkey : IsKey ktext key)
    (h : IsText text v) : SpellsMembers (ktext ++ ':' :: text) [(key, v)]
  | cons {ktext text rest : List Char} {key : Literal} {v : Json}
    {members : List (Literal × Json)} (hkey : IsKey ktext key) (h : IsText text v)
    (hrest : SpellsMembers rest members) :
    SpellsMembers (ktext ++ ':' :: (text ++ ',' :: rest)) ((key, v) :: members)

end

/-! ## Parts of a container -/

/-- The text spells the items in front of another one, with a comma behind each. -/
inductive LeadsItems : List Char → List Json → Prop
  | first : LeadsItems [] []
  | behind {text : List Char} {items : List Json} (h : SpellsItems text items) :
    LeadsItems (text ++ [',']) items

/-- The text spells the items behind another one, with a comma in front of each. -/
inductive TrailsItems : List Char → List Json → Prop
  | last : TrailsItems [] []
  | before {text : List Char} {items : List Json} (h : SpellsItems text items) :
    TrailsItems (',' :: text) items

/-- The text spells the members in front of another one, with a comma behind each. -/
inductive LeadsMembers : List Char → List (Literal × Json) → Prop
  | first : LeadsMembers [] []
  | behind {text : List Char} {members : List (Literal × Json)} (h : SpellsMembers text members) :
    LeadsMembers (text ++ [',']) members

/-- The text spells the members behind another one, with a comma in front of each. -/
inductive TrailsMembers : List Char → List (Literal × Json) → Prop
  | last : TrailsMembers [] []
  | before {text : List Char} {members : List (Literal × Json)} (h : SpellsMembers text members) :
    TrailsMembers (',' :: text) members

theorem SpellsItems.append : ∀ {text text' : List Char} {items items' : List Json},
    SpellsItems text items → SpellsItems text' items' →
      SpellsItems (text ++ ',' :: text') (items ++ items')
  | _, _, _, _, .one h, h' => .cons h h'
  | _, _, _, _, .cons h hrest, h' => by simpa using SpellsItems.cons h (hrest.append h')

theorem SpellsMembers.append : ∀ {text text' : List Char}
    {members members' : List (Literal × Json)},
    SpellsMembers text members → SpellsMembers text' members' →
      SpellsMembers (text ++ ',' :: text') (members ++ members')
  | _, _, _, _, .one hkey h, h' => by simpa using SpellsMembers.cons hkey h h'
  | _, _, _, _, .cons hkey h hrest, h' => by
    simpa using SpellsMembers.cons hkey h (hrest.append h')

/-- An item between others is an item of the array. -/
theorem SpellsItems.between {front text back : List Char} {items items' : List Json} {v : Json}
    (hfront : LeadsItems front items) (h : IsText text v) (hback : TrailsItems back items') :
    SpellsItems (front ++ (text ++ back)) (items ++ v :: items') := by
  have htail : SpellsItems (text ++ back) (v :: items') := by
    cases hback with
    | last => simpa using SpellsItems.one h
    | before hback => exact .cons h hback
  cases hfront with
  | first => exact htail
  | behind hfront => simpa using hfront.append htail

/-- A member between others is a member of the object. -/
theorem SpellsMembers.between {front ktext text back : List Char}
    {members members' : List (Literal × Json)} {key : Literal} {v : Json}
    (hfront : LeadsMembers front members) (hkey : IsKey ktext key) (h : IsText text v)
    (hback : TrailsMembers back members') :
    SpellsMembers (front ++ (ktext ++ ':' :: (text ++ back)))
      (members ++ (key, v) :: members') := by
  have htail : SpellsMembers (ktext ++ ':' :: (text ++ back)) ((key, v) :: members') := by
    cases hback with
    | last => simpa using SpellsMembers.one hkey h
    | before hback => exact .cons hkey h hback
  cases hfront with
  | first => exact htail
  | behind hfront => simpa using hfront.append htail

/-! ## Texts without blanks and escapes -/

theorem Spells.isText {text : List Char} {v : Json} (h : Spells text v) : IsText text v := by
  have hpadded := @IsText.padded [] text [] v (by decide) h (by decide)
  simpa using hpadded

theorem Literal.Spells.isKey {text : List Char} {key : Literal} (h : Literal.Spells text key) :
    IsKey text key := by
  have hpadded := @IsKey.padded [] text [] key (by decide) h (by decide)
  simpa using hpadded

/-- The character stands for itself in a string literal. -/
def IsPlain (c : Char) : Prop :=
  c ≠ '"' ∧ c ≠ '\\' ∧ 32 ≤ c.toNat

instance (c : Char) : Decidable (IsPlain c) :=
  inferInstanceAs (Decidable (_ ∧ _))

theorem Glyphs.plain {text : List Char} (h : ∀ c ∈ text, IsPlain c) :
    Glyphs text (text.map .char) := by
  induction text with
  | nil => exact .nil
  | cons c text ih =>
    obtain ⟨⟨hquote, hbackslash, hcontrol⟩, htext⟩ := List.forall_mem_cons.1 h
    exact .cons (.plain hquote hbackslash hcontrol) (ih htext)

/-- A text of plain characters is its own literal. -/
theorem Literal.Spells.plain {text : List Char} (h : ∀ c ∈ text, IsPlain c) :
    Literal.Spells ('"' :: (text ++ ['"'])) (some (String.ofList text)) := by
  have hdecode : Piece.decode? (text.map .char) = some text := by
    clear h
    induction text with
    | nil => rfl
    | cons c text ih =>
      rw [List.map_cons, Piece.spells_char c, ih]
      rfl
  have hquoted := Literal.Spells.quoted (Glyphs.plain h)
  rwa [Piece.literal, hdecode] at hquoted

theorem IsKey.plain {key : List Char} (h : ∀ c ∈ key, IsPlain c) :
    IsKey ('"' :: (key ++ ['"'])) (some (String.ofList key)) :=
  (Literal.Spells.plain h).isKey

/-- An item that is there many times. -/
theorem SpellsItems.replicate_append {text rest : List Char} {v : Json} {items : List Json}
    (h : IsText text v) (hrest : SpellsItems rest items) (n : Nat) :
    SpellsItems ((List.replicate n (text ++ [','])).flatten ++ rest)
      (List.replicate n v ++ items) := by
  induction n with
  | zero => exact hrest
  | succ n ih =>
    have hitems := SpellsItems.cons h ih
    simpa [List.replicate_succ] using hitems

end Json
end TxForge
