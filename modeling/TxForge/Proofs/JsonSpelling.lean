import TxForge.Proofs.JsonGrammar

/-!
# Reading what the grammar spells

The reader takes every text of a value that suits its layout, not only the one that is written: with
blanks between the tokens, with any escapes in the strings, and with any number literals.

* `Json.Spells.reads` — a text is read wherever its value is expected.
* `Json.SpellsItems.reads`, `Json.SpellsMembers.reads` — and so are the insides of an array and of
  an object, up to where a comma or the end may follow.
* `Json.readAs?_of_isText` — a whole text is read as the value that it spells.
-/

set_option autoImplicit false

namespace TxForge
namespace Json

variable {p p' : Place} {text : List Char} {layout : Layout} {stack : List Frame}

/-! ## Blanks -/

theorem run_blanks (h : AreBlank text) : (⟨.none, p⟩ : Reader).run text = some ⟨.none, p⟩ := by
  induction text with
  | nil => rfl
  | cons c text ih =>
    obtain ⟨hc, htext⟩ := List.forall_mem_cons.1 h
    have hstep : (⟨.none, p⟩ : Reader).step c = some ⟨.none, p⟩ := if_pos hc
    rw [Reader.run_cons, hstep]
    exact ih htext

theorem run_gap {r : Reader} {gap : List Char} (h : r.run text = some ⟨.none, p⟩)
    (hgap : AreBlank gap) : r.run (text ++ gap) = some ⟨.none, p⟩ := by
  rw [Reader.run_append, h, Option.bind_some, run_blanks hgap]

theorem isDelimiter_of_isBlank {c : Char} (h : isBlank c = true) : IsDelimiter c := by
  intro phase hcomplete
  simp only [isBlank, Bool.or_eq_true, beq_iff_eq] at h
  rcases h with ((rfl | rfl) | rfl) | rfl <;> cases phase <;> cases hcomplete <;> rfl

theorem isDelimiter_head {c : Char} (h : IsMark c) : ∀ d ∈ (c :: text).head?, IsDelimiter d := by
  rintro d ⟨⟩
  exact h.isDelimiter

/-- Blanks in front of a text lead nowhere. -/
theorem Place.Reads.gap {gap : List Char} (hgap : AreBlank gap) (h : p.Reads text p') :
    p.Reads (gap ++ text) p' := by
  obtain ⟨r, hrun, hr⟩ := h
  exact ⟨r, by rw [Reader.run_append, run_blanks hgap, Option.bind_some, hrun], hr⟩

/-- Nor do blanks around it. -/
theorem Place.Reads.padded {before after : List Char} (hbefore : AreBlank before)
    (h : p.Reads text p') (hafter : AreBlank after) :
    p.Reads (before ++ (text ++ after)) p' := by
  refine Place.Reads.gap hbefore (h.append ⟨_, run_blanks hafter, .between p'⟩ ?_)
  intro c hc
  exact isDelimiter_of_isBlank (hafter c (List.mem_of_mem_head? hc))

/-! ## String literals -/

theorem unescaped?_of_mem {letter c : Char} (h : (letter, c) ∈ shortEscapes) :
    unescaped? letter = some c ∧ letter ≠ 'u' := by
  have hall : ∀ pair ∈ shortEscapes, unescaped? pair.1 = some pair.2 ∧ pair.1 ≠ 'u' := by decide
  exact hall _ h

theorem Glyph.run {piece : Piece} (h : Glyph text piece) (read : List Piece) :
    (⟨.text read, p⟩ : Reader).run text = some ⟨.text (piece :: read), p⟩ := by
  cases h with
  | plain hquote hbackslash hcontrol =>
    rw [Reader.run_cons, Reader.step]
    simp only [if_neg hquote, if_neg hbackslash, if_neg (Nat.not_lt.2 hcontrol)]
    rfl
  | short h =>
    obtain ⟨hletter, hne⟩ := unescaped?_of_mem h
    show (⟨.escape read, p⟩ : Reader).run [_] = _
    rw [Reader.run_cons, Reader.step]
    simp only [if_neg hne, hletter]
    rfl
  | unit ha hb hc hd =>
    exact run_unit (Hex.digitValue?_of_isDigit ha) (Hex.digitValue?_of_isDigit hb)
      (Hex.digitValue?_of_isDigit hc) (Hex.digitValue?_of_isDigit hd)

theorem Glyphs.run {pieces : List Piece} (h : Glyphs text pieces) (read : List Piece) :
    (⟨.text read, p⟩ : Reader).run text = some ⟨.text (pieces.reverse ++ read), p⟩ := by
  induction h generalizing read with
  | nil => rfl
  | cons h _ ih =>
    rw [Reader.run_append, h.run, Option.bind_some, ih, List.reverse_cons, List.append_assoc,
      List.singleton_append]

/-- A string literal is read wherever a string or a key is expected. -/
theorem Literal.Spells.reads {s : Literal} (h : Spells text s) (hp : p.text s = some p') :
    p.Reads text p' := by
  cases h with
  | quoted h =>
    refine Place.Reads.token (Place.isPlain_of_text hp) rfl rfl ?_ (.between p')
    rw [Reader.run_append, h.run, Option.bind_some]
    refine run_quote ?_
    rw [List.append_nil, List.reverse_reverse]
    exact hp

theorem IsKey.reads {key : Literal} (h : IsKey text key) (hp : p.text key = some p') :
    p.Reads text p' := by
  cases h with
  | padded hbefore h hafter => exact (h.reads hp).padded hbefore hafter

/-! ## Values -/

/-- The layout of the items behind the given ones. -/
def Layout.behind (layout : Layout) (items : List Json) : Layout :=
  items.foldl (fun layout _ => layout.rest) layout

/-- Items suit a layout if the front does, and the others what is left of the layout. -/
theorem itemsSuit_append {items items' : List Json} (h : ItemsSuit layout (items ++ items')) :
    ItemsSuit layout items ∧ ItemsSuit (layout.behind items) items' := by
  induction items generalizing layout with
  | nil => exact ⟨trivial, h⟩
  | cons item items ih =>
    obtain ⟨hfull, hitem, hitems⟩ := h
    obtain ⟨hfront, hback⟩ := ih hitems
    exact ⟨⟨hfull, hitem, hfront⟩, hback⟩

mutual

/-- **A text is read wherever its value is expected**, if the value suits what is expected. -/
theorem Spells.reads : ∀ {text : List Char} {v : Json} {p : Place} {layout : Layout}
    {stack : List Frame}, Spells text v → p.Expects layout stack → Suits layout v →
      p.Reads text (Place.behind v stack)
  | _, _, _, _, _, .null, hp, _ => Place.reads_word (hp.scalar_eq .null) rfl rfl
  | _, _, _, _, _, .true, hp, _ => Place.reads_word (hp.scalar_eq (.bool true)) rfl rfl
  | _, _, _, _, _, .false, hp, _ => Place.reads_word (hp.scalar_eq (.bool false)) rfl rfl
  | _, _, _, _, _, .number h, hp, _ =>
    Place.reads_number h.isLiteral (h.ofChars_eq ▸ hp.scalar_eq _)
  | _, _, _, _, _, .string h, hp, _ => h.reads (hp.text_eq _)
  | _, _, _, _, _, .noItems h, hp, _ =>
    Place.Reads.mark (by simp [IsMark]) hp.mark_bracket
      (.gap h (Place.reads_mark (by simp [IsMark]) rfl))
  | _, _, _, layout, stack, .items h, hp, hv => by
    refine Place.Reads.mark (by simp [IsMark]) hp.mark_bracket ?_
    refine (h.reads (.firstItem layout stack) hv).append (Place.reads_mark (by simp [IsMark]) ?_)
      (isDelimiter_head (by simp [IsMark]))
    simp [Place.mark, Place.behindArray]
  | _, _, _, _, _, .noMembers h, hp, _ =>
    Place.Reads.mark (by simp [IsMark]) hp.mark_brace
      (.gap h (Place.reads_mark (by simp [IsMark]) rfl))
  | _, _, _, layout, stack, .members h, hp, hv => by
    refine Place.Reads.mark (by simp [IsMark]) hp.mark_brace ?_
    refine (h.reads (.firstKey layout stack) hv).append (Place.reads_mark (by simp [IsMark]) ?_)
      (isDelimiter_head (by simp [IsMark]))
    simp [Place.mark]

theorem IsText.reads : ∀ {text : List Char} {v : Json} {p : Place} {layout : Layout}
    {stack : List Frame}, IsText text v → p.Expects layout stack → Suits layout v →
      p.Reads text (Place.behind v stack)
  | _, _, _, _, _, .padded hbefore h hafter, hp, hv => (h.reads hp hv).padded hbefore hafter

/-- The items of an array are read up to where a comma or the bracket may follow. -/
theorem SpellsItems.reads : ∀ {text : List Char} {items : List Json} {p : Place}
    {layout : Layout} {done : List Json} {stack : List Frame}, SpellsItems text items →
      p.Expects layout.first (.items layout.rest done :: stack) → ItemsSuit layout items →
      p.Reads text (.afterItem (layout.behind items) (items.reverse ++ done) stack)
  | _, _, _, _, _, _, .one h, hp, hv => h.reads hp hv.2.1
  | _, _, _, layout, done, stack, @SpellsItems.cons _ _ v _ h hrest, hp, hv => by
    obtain ⟨-, hitem, hitems⟩ := hv
    have hfull : layout.rest.isFull = false := by
      cases hrest with
      | one => exact hitems.1
      | cons => exact hitems.1
    have htail := hrest.reads
      (.value layout.rest.first (.items layout.rest.rest (v :: done) :: stack)) hitems
    rw [List.reverse_cons, List.append_assoc, List.singleton_append]
    refine (h.reads hp hitem).append (Place.Reads.mark (by simp [IsMark]) ?_ htail)
      (isDelimiter_head (by simp [IsMark]))
    simp [Place.behind, Place.mark, Place.next, hfull]

/-- The members of an object are read up to where a comma or the brace may follow. -/
theorem SpellsMembers.reads : ∀ {text : List Char} {members : List (Literal × Json)} {p : Place}
    {layout : Layout} {done : List (Literal × Json)} {stack : List Frame},
      SpellsMembers text members → p.ExpectsKey layout done stack → MembersSuit layout members →
      p.Reads text (.afterMember layout (members.reverse ++ done) stack)
  | _, _, _, _, _, _, .one hkey h, hp, hv => by
    refine (hkey.reads (hp.text_eq _)).append ?_ (isDelimiter_head (by simp [IsMark]))
    exact Place.Reads.mark (by simp [IsMark]) rfl (h.reads (.value _ _) hv.1)
  | _, _, _, layout, done, stack, @SpellsMembers.cons _ _ _ key v _ hkey h hrest, hp, hv => by
    obtain ⟨hvalue, hmembers⟩ := hv
    have htail := hrest.reads (.key layout ((key, v) :: done) stack) hmembers
    rw [List.reverse_cons, List.append_assoc, List.singleton_append]
    refine (hkey.reads (hp.text_eq _)).append ?_ (isDelimiter_head (by simp [IsMark]))
    refine Place.Reads.mark (by simp [IsMark]) rfl ?_
    exact (h.reads (.value _ _) hvalue).append (Place.Reads.mark (by simp [IsMark]) rfl htail)
      (isDelimiter_head (by simp [IsMark]))

end

/-! ## Up to a value in a container -/

/-- A mark puts an end to a number in front of it. -/
theorem Place.Reads.run_mark {c : Char} {p'' : Place} (h : p.Reads text p') (hc : IsMark c)
    (hmark : p'.mark c = some p'') :
    (⟨.none, p⟩ : Reader).run (text ++ [c]) = some ⟨.none, p''⟩ := by
  obtain ⟨r, hrun, hr⟩ := h
  rw [Reader.run_append, hrun, Option.bind_some, Reader.run_cons, hr.step_eq hc.isDelimiter,
    fresh_of_isMark hc, hmark]
  rfl

/-- An array is read up to an item, if it has room for it. -/
theorem run_front_items {before front : List Char} {items : List Json}
    (hbefore : AreBlank before) (hfront : LeadsItems front items)
    (hsuits : ItemsSuit layout items) (hfull : (layout.behind items).isFull = false) :
    ∃ p, (Reader.start layout).run (before ++ '[' :: front) = some ⟨.none, p⟩ ∧
      p.Expects (layout.behind items).first [.items (layout.behind items).rest items.reverse] := by
  rw [Reader.start, Reader.run_append, run_blanks hbefore, Option.bind_some]
  show ∃ p, (⟨.none, .firstItem layout []⟩ : Reader).run front = _ ∧ _
  cases hfront with
  | first => exact ⟨_, rfl, .firstItem layout []⟩
  | behind h =>
    have hreads := h.reads (.firstItem layout []) hsuits
    rw [List.append_nil] at hreads
    have hnext : (Place.afterItem (layout.behind items) items.reverse []).mark ',' =
        some (.value (layout.behind items).first
          [.items (layout.behind items).rest items.reverse]) := by
      simp [Place.mark, Place.next, hfull]
    exact ⟨_, hreads.run_mark (by simp [IsMark]) hnext, .value _ _⟩

/-- An object is read up to the value of a member. -/
theorem run_front_members {before front ktext : List Char} {members : List (Literal × Json)}
    {key : Literal} (hbefore : AreBlank before) (hfront : LeadsMembers front members)
    (hsuits : MembersSuit layout members) (hkey : IsKey ktext key) :
    (Reader.start layout).run (before ++ '\x7b' :: (front ++ (ktext ++ [':']))) =
      some ⟨.none, .value (layout.member key) [.member layout members.reverse key]⟩ := by
  have hvalue {p : Place} (hp : p.ExpectsKey layout members.reverse []) :
      (⟨.none, p⟩ : Reader).run (ktext ++ [':']) =
        some ⟨.none, .value (layout.member key) [.member layout members.reverse key]⟩ :=
    (hkey.reads (hp.text_eq key)).run_mark (by simp [IsMark]) rfl
  rw [Reader.start, Reader.run_append, run_blanks hbefore, Option.bind_some]
  show (⟨.none, .firstKey layout []⟩ : Reader).run _ = _
  rw [Reader.run_append]
  cases hfront with
  | first => exact hvalue (.firstKey layout [])
  | behind h =>
    have hreads := h.reads (.firstKey layout []) hsuits
    rw [List.append_nil] at hreads
    rw [hreads.run_mark (by simp [IsMark]) rfl]
    exact hvalue (.key layout _ [])

/-! ## Whole texts -/

/-- **A text is read as the value that it spells**, for a reader that expects its layout. -/
theorem readAs?_of_isText {text : String} {v : Json} (h : IsText text.toList v)
    (hv : Suits layout v) : readAs? layout text = some v :=
  readAs?_eq_some (h.reads (.value layout []) hv)

mutual

/-- What a text spells suits a reader that expects nothing. -/
theorem Spells.suits_any : ∀ {text : List Char} {v : Json}, Spells text v → Suits .any v
  | _, _, .null | _, _, .true | _, _, .false | _, _, .string _ => trivial
  | _, _, .noItems _ | _, _, .noMembers _ => trivial
  | _, _, .number h => h.isWritten
  | _, _, .items h => h.suits_any
  | _, _, .members h => h.suits_any

theorem IsText.suits_any : ∀ {text : List Char} {v : Json}, IsText text v → Suits .any v
  | _, _, .padded _ h _ => h.suits_any

theorem SpellsItems.suits_any : ∀ {text : List Char} {items : List Json},
    SpellsItems text items → ItemsSuit .any items
  | _, _, .one h => ⟨rfl, h.suits_any, trivial⟩
  | _, _, .cons h hrest => ⟨rfl, h.suits_any, hrest.suits_any⟩

theorem SpellsMembers.suits_any : ∀ {text : List Char} {members : List (Literal × Json)},
    SpellsMembers text members → MembersSuit .any members
  | _, _, .one _ h => ⟨h.suits_any, trivial⟩
  | _, _, .cons _ h hrest => ⟨h.suits_any, hrest.suits_any⟩

end

end Json
end TxForge
