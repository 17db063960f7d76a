import TxForge.Proofs.JsonTokens

/-!
# Reading what was written

The text of a value reads back as the value.  The reader does not know the value but its layout, and
the layout may be at odds with it: where a byte string of a fixed length is expected, the reader is
lenient about one item too many in an array, and would drop an item that was written.  `Json.Suits`
says that this cannot happen.

* `Json.Suits` — no array is longer than its layout has room for, and numbers are spelled as such.
* `Json.reads_chars` — a value is read wherever one is expected.
* `Json.readAs?_render` — the text of a value reads back as the value.
-/

set_option autoImplicit false

namespace TxForge
namespace Json

/-! ## Values that suit a layout -/

/-- The number is spelled as a number literal, and not as that of a natural number. -/
def Number.IsWritten : Number → Prop
  | .natural _ => True
  | .spelled text => IsLiteral text.toList ∧ text.toList.all Char.isDigit = false

/-- The literal of a number denotes it. -/
theorem Number.isLiteral_chars (n : Number) (h : n.IsWritten) :
    IsLiteral n.chars ∧ ofChars n.chars = n := by
  cases n with
  | natural n => exact ⟨isLiteral_toDigits n, ofChars_toDigits n⟩
  | spelled text =>
    obtain ⟨hliteral, hdigits⟩ := h
    refine ⟨hliteral, ?_⟩
    rw [Number.chars, ofChars, hdigits, String.ofList_toList]
    rfl

mutual

/-- No array is longer than its layout has room for, and numbers are spelled as such. -/
def Suits : Layout → Json → Prop
  | _, .number n => n.IsWritten
  | layout, .array items => ItemsSuit layout items
  | layout, .object members => MembersSuit layout members
  | _, _ => True

/-- The items suit what is left of the layout of an array. -/
def ItemsSuit : Layout → List Json → Prop
  | _, [] => True
  | layout, item :: items =>
    layout.isFull = false ∧ Suits layout.first item ∧ ItemsSuit layout.rest items

/-- The values of the members suit the layouts under their keys. -/
def MembersSuit : Layout → List (Literal × Json) → Prop
  | _, [] => True
  | layout, (key, value) :: members =>
    Suits (layout.member key) value ∧ MembersSuit layout members

end

/-! ## Places where a value or a key is expected -/

/-- A value of the layout is expected at the place, inside the open containers. -/
inductive Place.Expects : Place → Layout → List Frame → Prop
  | value (layout : Layout) (stack : List Frame) : Expects (.value layout stack) layout stack
  | firstItem (layout : Layout) (stack : List Frame) :
    Expects (.firstItem layout stack) layout.first (.items layout.rest [] :: stack)

/-- A key is expected at the place, behind the members that are done. -/
inductive Place.ExpectsKey : Place → Layout → List (Literal × Json) → List Frame → Prop
  | firstKey (layout : Layout) (stack : List Frame) :
    ExpectsKey (.firstKey layout stack) layout [] stack
  | key (layout : Layout) (done : List (Literal × Json)) (stack : List Frame) :
    ExpectsKey (.key layout done stack) layout done stack

namespace Place

variable {p p' : Place} {layout : Layout} {stack : List Frame} {done : List (Literal × Json)}

theorem Expects.scalar_eq (h : p.Expects layout stack) (v : Json) :
    p.scalar v = some (behind v stack) := by
  cases h <;> rfl

theorem Expects.text_eq (h : p.Expects layout stack) (s : Literal) :
    p.text s = some (behind (.string s) stack) := by
  cases h <;> rfl

theorem Expects.mark_bracket (h : p.Expects layout stack) :
    p.mark '[' = some (.firstItem layout stack) := by
  cases h <;> rfl

theorem Expects.mark_brace (h : p.Expects layout stack) :
    p.mark '\x7b' = some (.firstKey layout stack) := by
  cases h <;> rfl

theorem ExpectsKey.text_eq (h : p.ExpectsKey layout done stack) (key : Literal) :
    p.text key = some (.colon layout done key stack) := by
  cases h <;> rfl

/-- A member is its key, a colon and its value. -/
theorem reads_member {key : Literal} {value : Json} {text : List Char}
    (hp : p.ExpectsKey layout done stack)
    (hvalue : (Place.value (layout.member key) (.member layout done key :: stack)).Reads value.chars
      (.afterMember layout ((key, value) :: done) stack))
    (htext : (Place.afterMember layout ((key, value) :: done) stack).Reads text p')
    (hc : ∀ c ∈ text.head?, IsDelimiter c) :
    p.Reads (key.chars ++ ':' :: (value.chars ++ text)) p' := by
  refine (reads_literal (hp.text_eq key)).append ?_ ?_
  · exact Reads.mark (by simp [IsMark]) rfl (hvalue.append htext hc)
  · rintro c ⟨⟩
    exact IsMark.isDelimiter (by simp [IsMark])

end Place

/-! ## Values -/

theorem isDelimiter_charsOfItems (items : List Json) :
    ∀ c ∈ (charsOfItems items).head?, IsDelimiter c := by
  cases items <;> rintro c ⟨⟩ <;> exact IsMark.isDelimiter (by simp [IsMark])

theorem isDelimiter_charsOfMembers (members : List (Literal × Json)) :
    ∀ c ∈ (charsOfMembers members).head?, IsDelimiter c := by
  cases members <;> rintro c ⟨⟩ <;> exact IsMark.isDelimiter (by simp [IsMark])

mutual

/-- **A value is read wherever one is expected that it suits.** -/
theorem reads_chars : ∀ (v : Json) {p : Place} {layout : Layout} {stack : List Frame},
    p.Expects layout stack → Suits layout v → p.Reads v.chars (Place.behind v stack)
  | .null, p, _, _, hp, _ => Place.reads_word (hp.scalar_eq .null) rfl rfl
  | .bool true, p, _, _, hp, _ => Place.reads_word (hp.scalar_eq (.bool true)) rfl rfl
  | .bool false, p, _, _, hp, _ => Place.reads_word (hp.scalar_eq (.bool false)) rfl rfl
  | .number n, p, _, _, hp, hn => by
    obtain ⟨hliteral, hchars⟩ := n.isLiteral_chars hn
    rw [chars]
    refine Place.reads_number hliteral ?_
    rw [hchars]
    exact hp.scalar_eq _
  | .string s, p, _, _, hp, _ => Place.reads_literal (hp.text_eq s)
  | .array [], p, _, _, hp, _ =>
    Place.Reads.mark (by simp [IsMark]) hp.mark_bracket (Place.reads_mark (by simp [IsMark]) rfl)
  | .array (item :: items), p, layout, stack, hp, hv => by
    obtain ⟨-, hitem, hitems⟩ := hv
    refine Place.Reads.mark (by simp [IsMark]) hp.mark_bracket ?_
    exact (reads_chars item (.firstItem layout stack) hitem).append
      (reads_charsOfItems items [item] stack hitems) (isDelimiter_charsOfItems items)
  | .object [], p, _, _, hp, _ =>
    Place.Reads.mark (by simp [IsMark]) hp.mark_brace (Place.reads_mark (by simp [IsMark]) rfl)
  | .object ((key, value) :: members), p, layout, stack, hp, hv => by
    obtain ⟨hvalue, hmembers⟩ := hv
    refine Place.Reads.mark (by simp [IsMark]) hp.mark_brace ?_
    exact Place.reads_member (.firstKey layout stack) (reads_chars value (.value _ _) hvalue)
      (reads_charsOfMembers members [(key, value)] stack hmembers) (isDelimiter_charsOfMembers members)

/-- The items behind those that are done end the array. -/
theorem reads_charsOfItems : ∀ (items : List Json) {rest : Layout} (done : List Json)
    (stack : List Frame), ItemsSuit rest items →
    (Place.afterItem rest done stack).Reads (charsOfItems items)
      (Place.behind (.array (done.reverse ++ items)) stack)
  | [], _, done, stack, _ => by
    rw [List.append_nil]
    exact Place.reads_mark (by simp [IsMark]) rfl
  | item :: items, rest, done, stack, hitems => by
    obtain ⟨hfull, hitem, hitems⟩ := hitems
    have hnext : (Place.afterItem rest done stack).mark ',' =
        some (.value rest.first (.items rest.rest done :: stack)) := by
      simp [Place.mark, Place.next, hfull]
    refine Place.Reads.mark (by simp [IsMark]) hnext ?_
    have htail := reads_charsOfItems items (item :: done) stack hitems
    rw [List.reverse_cons, List.append_assoc] at htail
    exact (reads_chars item (.value _ _) hitem).append htail (isDelimiter_charsOfItems items)

/-- The members behind those that are done end the object. -/
theorem reads_charsOfMembers : ∀ (members : List (Literal × Json)) {layout : Layout}
    (done : List (Literal × Json)) (stack : List Frame), MembersSuit layout members →
    (Place.afterMember layout done stack).Reads (charsOfMembers members)
      (Place.behind (.object (done.reverse ++ members)) stack)
  | [], _, done, stack, _ => by
    rw [List.append_nil]
    exact Place.reads_mark (by simp [IsMark]) rfl
  | (key, value) :: members, layout, done, stack, hmembers => by
    obtain ⟨hvalue, hmembers⟩ := hmembers
    refine Place.Reads.mark (by simp [IsMark]) rfl ?_
    have htail := reads_charsOfMembers members ((key, value) :: done) stack hmembers
    rw [List.reverse_cons, List.append_assoc] at htail
    exact Place.reads_member (.key layout done stack) (reads_chars value (.value _ _) hvalue) htail
      (isDelimiter_charsOfMembers members)

end

/-- **The text of a value reads back as the value**, for a reader that expects its layout. -/
theorem readAs?_render {layout : Layout} {v : Json} (h : Suits layout v) :
    readAs? layout v.render = some v := by
  refine readAs?_eq_some ?_
  rw [render, String.toList_ofList]
  exact reads_chars v (.value layout []) h

end Json
end TxForge
