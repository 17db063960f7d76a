import TxForge.Proofs.ArgsContent
import TxForge.Proofs.JsonWords

/-!
# Amounts are read exactly or not at all

What the text of a single field has to be for the args to be read, when their other parts are in
order.  The text may be anything that has one place in the args: the text of a value, or any text
without blanks, quotes and marks.

* `TxArgs.Slot` — the texts in front of and behind the text of a field, in an object as well as in
  an array.
* `TxArgs.exact_of_amount` — a plain number is read from its one decimal text and from no other, and
  a value from the texts that denote it, each up to its width and no further.
-/

set_option autoImplicit false

namespace TxForge
namespace TxArgs

open Json

/-! ## Numbers in args -/

/-- How many bits a field has that is given by a plain number. -/
def Field.width? : Field → Option Nat
  | .chainId | .nonce | .gasLimit => some 64
  | .gasPrice | .maxFeePerGas | .maxPriorityFeePerGas => some 128
  | .recipient | .input | .value | .accessList => none

/-- The plain number in a field, if there is one. -/
def number? (args : TxArgs) : Field → Option Nat
  | .chainId => args.chainId.map BitVec.toNat
  | .nonce => args.nonce.map BitVec.toNat
  | .gasLimit => args.gasLimit.map BitVec.toNat
  | .gasPrice => args.gasPrice.map BitVec.toNat
  | .maxFeePerGas => args.maxFeePerGas.map BitVec.toNat
  | .maxPriorityFeePerGas => args.maxPriorityFeePerGas.map BitVec.toNat
  | .recipient | .input | .value | .accessList => none

/-- The args with a plain number in a field, as far as it fits. -/
def withNumber (args : TxArgs) (n : Nat) : Field → TxArgs
  | .chainId => { args with chainId := some (BitVec.ofNat 64 n) }
  | .nonce => { args with nonce := some (BitVec.ofNat 64 n) }
  | .gasLimit => { args with gasLimit := some (BitVec.ofNat 64 n) }
  | .gasPrice => { args with gasPrice := some (BitVec.ofNat 128 n) }
  | .maxFeePerGas => { args with maxFeePerGas := some (BitVec.ofNat 128 n) }
  | .maxPriorityFeePerGas => { args with maxPriorityFeePerGas := some (BitVec.ofNat 128 n) }
  | .recipient | .input | .value | .accessList => args

variable {args base : TxArgs} {field : Field} {width n : Nat} {part : Field → Option Json}

/-- A part is `null`, or it is the number that is read of it. -/
theorem number_cases {v : Json} {a : Option (BitVec width)}
    (h : IsOptional IsNumber (some v) a) : (v = .null ∧ a.map BitVec.toNat = none) ∨
      ∃ n, v = .ofNat n ∧ n < 2 ^ width ∧ a.map BitVec.toNat = some n := by
  cases h with
  | null => exact .inl ⟨rfl, rfl⟩
  | @given _ b hb => exact .inr ⟨b.toNat, hb, b.isLt, rfl⟩

theorem FromParts.number?_cases (h : args.FromParts part) (hwidth : field.width? = some width)
    {v : Json} (hv : part field = some v) : (v = .null ∧ args.number? field = none) ∨
      ∃ n, v = .ofNat n ∧ n < 2 ^ width ∧ args.number? field = some n := by
  cases field <;> cases hwidth
  · exact number_cases (hv ▸ h.chainId)
  · exact number_cases (hv ▸ h.nonce)
  · exact number_cases (hv ▸ h.gasLimit)
  · exact number_cases (hv ▸ h.gasPrice)
  · exact number_cases (hv ▸ h.maxFeePerGas)
  · exact number_cases (hv ▸ h.maxPriorityFeePerGas)

/-- A number that fits can be put where none was given. -/
theorem FromParts.withNumber (h : base.FromParts (Function.update part field none))
    (hwidth : field.width? = some width) (hn : n < 2 ^ width) :
    (base.withNumber n field).FromParts (Function.update part field (some (.ofNat n))) := by
  have hlt : n < capacity width := by rwa [capacity, Nat.one_shiftLeft]
  obtain ⟨h₁, h₂, h₃, h₄, h₅, h₆, h₇, h₈, h₉, h₁₀⟩ := h
  cases field <;> cases hwidth
  all_goals
    constructor
    all_goals first
      | assumption
      | exact .given (congrArg Json.ofNat (toNat_ofNat_of_lt hlt).symm)

/-- So can `null`, which changes nothing. -/
theorem FromParts.withNull (h : base.FromParts (Function.update part field none))
    (hwidth : field.width? = some width) :
    base.FromParts (Function.update part field (some .null)) := by
  have hnull {width : Nat} {a : Option (BitVec width)} (ha : IsOptional IsNumber none a) :
      IsOptional IsNumber (some .null) a := by
    cases ha
    exact .null
  obtain ⟨h₁, h₂, h₃, h₄, h₅, h₆, h₇, h₈, h₉, h₁₀⟩ := h
  cases field <;> cases hwidth
  all_goals
    constructor
    all_goals first
      | assumption
      | exact hnull ‹_›

/-- And so can a value. -/
theorem FromParts.withValue {v : Json} {value : Wei}
    (h : base.FromParts (Function.update part .value none)) (hv : IsQuantity v value) :
    { base with value := value }.FromParts (Function.update part .value (some v)) := by
  obtain ⟨h₁, h₂, h₃, h₄, h₅, h₆, h₇, h₈, h₉, h₁₀⟩ := h
  exact ⟨h₁, h₂, h₃, h₄, .given hv, h₆, h₇, h₈, h₉, h₁₀⟩

theorem FromParts.isQuantity {v : Json}
    (h : args.FromParts (Function.update part .value (some v))) : IsQuantity v args.value := by
  rcases h.value with _ | h
  exact h

/-! ## The text of one field -/

/-- The texts in front of and behind the text of a field, in args that have the parts elsewhere. -/
inductive Slot (field : Field) : List Char → List Char → (Field → Option Json) → Prop
  | member {before front ktext gap gap' back after : List Char}
    {members members' : List (Literal × Json)} (hbefore : AreBlank before)
    (hfront : LeadsMembers front members) (hkey : IsKey ktext (some field.key))
    (hgap : AreBlank gap) (hgap' : AreBlank gap') (hback : TrailsMembers back members')
    (hafter : AreBlank after)
    (hkeys : ∀ v, WellKeyed (Field.all.map Field.key)
      (members ++ (some field.key, v) :: members')) :
    Slot field (before ++ '\x7b' :: (front ++ (ktext ++ [':'])) ++ gap)
      (gap' ++ (back ++ '\x7d' :: after))
      fun field => (members ++ members').lookup (some field.key)
  | item {before front gap gap' back after : List Char} {fields fields' : List Field}
    {value : Field → Json} (hfields : Field.all = fields ++ field :: fields')
    (hbefore : AreBlank before) (hfront : LeadsItems front (fields.map value))
    (hgap : AreBlank gap) (hgap' : AreBlank gap')
    (hback : TrailsItems back (fields'.map value)) (hafter : AreBlank after) :
    Slot field (before ++ '[' :: front ++ gap) (gap' ++ (back ++ ']' :: after))
      fun field => some (value field)

variable {pre post text : List Char}

theorem Field.key_injective {field field' : Field} (h : field.key = field'.key) :
    field = field' :=
  List.inj_on_of_nodup_map Field.nodup_keys field.mem_all field'.mem_all h

/-- A member between others has the place of its field. -/
theorem lookup_between {members members' : List (Literal × Json)} {v : Json}
    (hkeys : WellKeyed (Field.all.map Field.key) (members ++ (some field.key, v) :: members'))
    (field' : Field) :
    (members ++ (some field.key, v) :: members').lookup (some field'.key) =
      Function.update (fun field' : Field => (members ++ members').lookup (some field'.key)) field
        (some v) field' := by
  by_cases hfield : field' = field
  · subst hfield
    rw [Function.update_self]
    exact hkeys.lookup_eq (List.mem_map_of_mem field'.mem_all) (by simp)
  · have hne : (some field'.key : Literal) ≠ some field.key :=
      fun h => hfield (Field.key_injective (Option.some.inj h))
    rw [Function.update_of_ne hfield, List.lookup_append, List.lookup_append, List.lookup_cons,
      beq_false_of_ne hne]

/-- An item between others has the place of its field. -/
theorem map_between {fields fields' : List Field} (hfields : Field.all = fields ++ field :: fields')
    (value : Field → Json) (v : Json) :
    Field.all.map (Function.update value field v) =
      fields.map value ++ v :: fields'.map value := by
  have hnodup := hfields ▸ Field.all_nodup
  rw [List.nodup_append, List.nodup_cons] at hnodup
  obtain ⟨-, ⟨hbehind, -⟩, hfront⟩ := hnodup
  have hother {l : List Field} (hl : field ∉ l) :
      l.map (Function.update value field v) = l.map value :=
    List.map_congr_left fun field' hfield' =>
      Function.update_of_ne (by rintro rfl; exact hl hfield') _ _
  rw [hfields, List.map_append, List.map_cons, Function.update_self,
    hother fun h => hfront field h field (by simp) rfl, hother hbehind]

theorem hasParts_between {members members' : List (Literal × Json)} {v : Json}
    (hkeys : WellKeyed (Field.all.map Field.key) (members ++ (some field.key, v) :: members')) :
    HasParts (.object (members ++ (some field.key, v) :: members'))
      (Function.update (fun field' : Field => (members ++ members').lookup (some field'.key)) field
        (some v)) := by
  rw [← funext (lookup_between hkeys)]
  exact .object hkeys

theorem hasParts_map_between {fields fields' : List Field}
    (hfields : Field.all = fields ++ field :: fields') (value : Field → Json) (v : Json) :
    HasParts (.array (fields.map value ++ v :: fields'.map value))
      (Function.update (fun field' => some (value field')) field (some v)) := by
  have hpart : Function.update (fun field' => some (value field')) field (some v) =
      fun field' => some (Function.update value field v field') :=
    (Function.comp_update some value field v).symm
  rw [hpart, ← map_between hfields]
  exact .array _

/-- A text that is put in the place of a field is that of its part. -/
theorem Slot.exists_hasParts (hslot : Slot field pre post part) {v : Json}
    (h : Spells text v) : ∃ w, IsText (pre ++ (text ++ post)) w ∧
      HasParts w (Function.update part field (some v)) := by
  cases hslot with
  | member hbefore hfront hkey hgap hgap' hback hafter hkeys =>
    refine ⟨_, ?_, hasParts_between (hkeys v)⟩
    have htext := IsText.padded hbefore
      (.members (.between hfront hkey (.padded hgap h hgap') hback)) hafter
    simpa using htext
  | item hfields hbefore hfront hgap hgap' hback hafter =>
    refine ⟨_, ?_, hasParts_map_between hfields _ v⟩
    have htext := IsText.padded hbefore
      (.items (.between hfront (.padded hgap h hgap') hback)) hafter
    simpa using htext

/-- **What is read depends on the part that is put in the place.** -/
theorem Slot.ofText?_eq_some_iff (hslot : Slot field pre post part)
    (hbase : base.FromParts (Function.update part field none)) (hlayout : field.layout = .any)
    {v : Json} (h : Spells text v) {s : String} (hs : s.toList = pre ++ (text ++ post)) :
    ofText? s = some args ↔ args.FromParts (Function.update part field (some v)) := by
  obtain ⟨w, htext, hw⟩ := hslot.exists_hasParts h
  rw [TxArgs.ofText?_eq_some_iff (hs ▸ htext) (suits_update hw htext.suits_any hbase hlayout),
    hw.fromJson_iff]

/-- A place is where a value is due. -/
theorem Slot.exists_run (hslot : Slot field pre post part)
    (hbase : base.FromParts (Function.update part field none)) (hlayout : field.layout = .any) :
    ∃ p layout' stack, (Reader.start layout).run pre = some ⟨.none, p⟩ ∧
      p.Expects layout' stack := by
  cases hslot with
  | member hbefore hfront hkey hgap _ hback _ hkeys =>
    have hany := (SpellsMembers.between hfront hkey Spells.null.isText hback).suits_any
    have hsuits := membersSuit_iff.1 (suits_update (hasParts_between (hkeys .null)) hany hbase
      hlayout)
    have hrun := run_front_members hbefore hfront
      (membersSuit_iff.2 fun member hmember => hsuits member (by simp [hmember])) hkey
    exact ⟨_, _, _, run_gap hrun hgap, .value _ _⟩
  | @item _ _ _ _ _ _ _ _ value hfields hbefore hfront hgap _ hback =>
    have hany := (SpellsItems.between hfront Spells.null.isText hback).suits_any
    have hsuits := suits_update (hasParts_map_between hfields value .null) hany hbase hlayout
    obtain ⟨hfront', hfull, -⟩ := itemsSuit_append hsuits
    obtain ⟨p, hrun, hp⟩ := run_front_items hbefore hfront hfront' hfull
    exact ⟨p, _, _, run_gap hrun hgap, hp⟩

/-- What follows a place starts with a blank or a mark. -/
theorem Slot.exists_not_bare (hslot : Slot field pre post part) :
    ∃ c rest, post = c :: rest ∧ ¬ IsBare c := by
  have hhead {gap rest : List Char} {c : Char} (hgap : AreBlank gap) (hc : IsMark c) :
      ∃ d rest', gap ++ c :: rest = d :: rest' ∧ ¬ IsBare d := by
    cases gap with
    | nil => exact ⟨c, rest, rfl, fun h => h.2.1 hc⟩
    | cons d gap =>
      have hd := hgap d (by simp)
      exact ⟨d, _, rfl, fun h => by simp [h.1] at hd⟩
  cases hslot with
  | member _ _ _ _ hgap' hback =>
    cases hback with
    | last => exact hhead hgap' (by decide)
    | before => exact hhead hgap' (by decide)
  | @item _ _ _ _ _ _ _ fields' value _ _ _ _ hgap' hback =>
    generalize fields'.map value = items at hback
    cases hback with
    | last => exact hhead hgap' (by decide)
    | before => exact hhead hgap' (by decide)

/-! ## What is read of it -/

/-- The text has one place in the args: it is that of a value, or it has no character that means
something between two tokens. -/
def IsSolid (text : List Char) : Prop :=
  (∃ v, Spells text v) ∨ text ≠ [] ∧ ∀ c ∈ text, IsBare c

/-- A text that is read in a place is that of a value. -/
theorem Slot.exists_spells (hslot : Slot field pre post part)
    (hbase : base.FromParts (Function.update part field none)) (hlayout : field.layout = .any)
    (hsolid : IsSolid text) {s : String} (hs : s.toList = pre ++ (text ++ post))
    (hread : ofText? s = some args) : ∃ v, Spells text v := by
  rcases hsolid with h | ⟨hne, hbare⟩
  · exact h
  obtain ⟨p, layout', stack, hpre, hp⟩ := hslot.exists_run hbase hlayout
  obtain ⟨c, rest, rfl, hc⟩ := hslot.exists_not_bare
  obtain ⟨v, hv, -⟩ := Option.bind_eq_some_iff.1 hread
  obtain ⟨r, hrun, hresult⟩ := Option.bind_eq_some_iff.1 hv
  rw [hs, Reader.run_append, hpre] at hrun
  exact exists_spells_of_bare hp hne hbare hc hrun hresult

theorem Field.layout_of_width? (h : field.width? = some width) : field.layout = .any := by
  cases field <;> cases h <;> rfl

/-- What is read in the place of a plain number is `null` or the number that its text spells. -/
theorem Slot.number_cases (hslot : Slot field pre post part)
    (hbase : base.FromParts (Function.update part field none))
    (hwidth : field.width? = some width) (hsolid : IsSolid text) {s : String}
    (hs : s.toList = pre ++ (text ++ post)) (hread : ofText? s = some args) :
    (text = ['n', 'u', 'l', 'l'] ∧ args.number? field = none) ∨
      ∃ n, text = Nat.toDigits 10 n ∧ n < 2 ^ width ∧ args.number? field = some n := by
  have hlayout := Field.layout_of_width? hwidth
  obtain ⟨v, h⟩ := hslot.exists_spells hbase hlayout hsolid hs hread
  have hargs := (hslot.ofText?_eq_some_iff hbase hlayout h hs).1 hread
  rcases hargs.number?_cases hwidth (Function.update_self ..) with
    ⟨rfl, hnone⟩ | ⟨n, rfl, hn, hsome⟩
  · cases h with
    | null => exact .inl ⟨rfl, hnone⟩
  · cases h with
    | number h => exact .inr ⟨n, h.eq_toDigits, hn, hsome⟩

/-- The decimal text of a number that fits is read as the number. -/
theorem Slot.exists_number (hslot : Slot field pre post part)
    (hbase : base.FromParts (Function.update part field none))
    (hwidth : field.width? = some width) (hn : n < 2 ^ width) {s : String}
    (hs : s.toList = pre ++ (Nat.toDigits 10 n ++ post)) :
    ∃ args, ofText? s = some args ∧ args.number? field = some n := by
  have hargs := hbase.withNumber hwidth hn
  have hread := (hslot.ofText?_eq_some_iff hbase (Field.layout_of_width? hwidth)
    (.number (.natural n)) hs).2 hargs
  refine ⟨_, hread, ?_⟩
  rcases hargs.number?_cases hwidth (Function.update_self ..) with ⟨h, -⟩ | ⟨m, h, -, hm⟩
  · cases h
  · cases h
    exact hm

/-- `null` is read as no number. -/
theorem Slot.ofText?_null (hslot : Slot field pre post part)
    (hbase : base.FromParts (Function.update part field none))
    (hwidth : field.width? = some width) {s : String}
    (hs : s.toList = pre ++ (['n', 'u', 'l', 'l'] ++ post)) : ofText? s = some base :=
  (hslot.ofText?_eq_some_iff hbase (Field.layout_of_width? hwidth) .null hs).2
    (hbase.withNull hwidth)

/-- What is read in the place of a value is what its part denotes. -/
theorem Slot.isQuantity (hslot : Slot .value pre post part)
    (hbase : base.FromParts (Function.update part .value none)) {v : Json} (h : Spells text v)
    {s : String} (hs : s.toList = pre ++ (text ++ post)) (hread : ofText? s = some args) :
    IsQuantity v args.value :=
  ((hslot.ofText?_eq_some_iff hbase rfl h hs).1 hread).isQuantity

/-- A part that denotes a value is read as it. -/
theorem Slot.exists_value (hslot : Slot .value pre post part)
    (hbase : base.FromParts (Function.update part .value none)) {v : Json} (h : Spells text v)
    {s : String} (hs : s.toList = pre ++ (text ++ post)) {value : Wei} (hv : IsQuantity v value) :
    ∃ args, ofText? s = some args ∧ args.value = value :=
  ⟨_, (hslot.ofText?_eq_some_iff hbase rfl h hs).2 (hbase.withValue hv), rfl⟩

/-- A part that denotes one value at most is read up to a bound and no further. -/
theorem Slot.value_exact {bound : Nat} (hslot : Slot .value pre post part)
    (hbase : base.FromParts (Function.update part .value none)) {v : Json} (h : Spells text v)
    {s : String} (hs : s.toList = pre ++ (text ++ post)) (hbound : bound ≤ 2 ^ 256)
    (hv : ∀ value : Wei, IsQuantity v value ↔ value.toNat = n ∧ n < bound) :
    (n < bound → ∃ args, ofText? s = some args ∧ args.value.toNat = n) ∧
      (bound ≤ n → ofText? s = none) := by
  constructor
  · intro hlt
    have hvalue : (BitVec.ofNat 256 n).toNat = n := by
      rw [BitVec.toNat_ofNat, Nat.mod_eq_of_lt (hlt.trans_le hbound)]
    obtain ⟨args, hread, hargs⟩ := hslot.exists_value hbase h hs ((hv _).2 ⟨hvalue, hlt⟩)
    exact ⟨args, hread, hargs ▸ hvalue⟩
  · intro hle
    refine Option.eq_none_iff_forall_ne_some.2 fun args hread => ?_
    obtain ⟨-, hlt⟩ := (hv _).1 (hslot.isQuantity hbase h hs hread)
    exact absurd hlt (Nat.not_lt.2 hle)

/-- A string that denotes a number is read as the number, if it fits. -/
theorem Slot.value_of_string (hslot : Slot .value pre post part)
    (hbase : base.FromParts (Function.update part .value none)) {t : String}
    (htext : Literal.Spells text (some t)) (hn : Quantity.Denotes t n) {s : String}
    (hs : s.toList = pre ++ (text ++ post)) :
    (n < 2 ^ 256 → ∃ args, ofText? s = some args ∧ args.value.toNat = n) ∧
      (2 ^ 256 ≤ n → ofText? s = none) := by
  refine hslot.value_exact hbase (.string htext) hs le_rfl fun value => ⟨?_, ?_⟩
  · rintro (⟨t', ht', hdenotes⟩ | ⟨h, -⟩)
    · cases ht'
      obtain rfl := hdenotes.unique hn
      exact ⟨rfl, value.isLt⟩
    · cases h
  · rintro ⟨rfl, -⟩
    exact .inl ⟨t, rfl, hn⟩

/-- The decimal text of a number is read as the number, if it fits 64 bits. -/
theorem Slot.value_of_digits (hslot : Slot .value pre post part)
    (hbase : base.FromParts (Function.update part .value none)) {s : String}
    (hs : s.toList = pre ++ (Nat.toDigits 10 n ++ post)) :
    (n < 2 ^ 64 → ∃ args, ofText? s = some args ∧ args.value.toNat = n) ∧
      (2 ^ 64 ≤ n → ofText? s = none) := by
  have hcapacity : capacity 64 = 2 ^ 64 := Nat.one_shiftLeft 64
  rw [← hcapacity]
  refine hslot.value_exact hbase (.number (.natural n)) hs (by decide) fun value => ⟨?_, ?_⟩
  · rintro (⟨t, h, -⟩ | ⟨h, hlt⟩)
    · cases h
    · cases h
      exact ⟨rfl, hlt⟩
  · rintro ⟨rfl, hlt⟩
    exact .inr ⟨rfl, hlt⟩

/-- No other text is read as a value. -/
theorem Slot.text_of_value (hslot : Slot .value pre post part)
    (hbase : base.FromParts (Function.update part .value none)) (hsolid : IsSolid text)
    {s : String} (hs : s.toList = pre ++ (text ++ post)) (hread : ofText? s = some args) :
    (∃ t, Literal.Spells text (some t) ∧ Quantity.Denotes t args.value.toNat) ∨
      text = Nat.toDigits 10 args.value.toNat := by
  obtain ⟨v, h⟩ := hslot.exists_spells hbase rfl hsolid hs hread
  rcases hslot.isQuantity hbase h hs hread with ⟨t, rfl, hdenotes⟩ | ⟨rfl, -⟩
  · cases h with
    | string h => exact .inl ⟨t, h, hdenotes⟩
  · cases h with
    | number h => exact .inr h.eq_toDigits

/-- **Amounts are read exactly or not at all.**  A plain number is read from its one decimal text if
it fits the width of its field, and from no other text; other than that there is only `null`, which
is no number.  A value is read from every string that denotes it, in four radixes, if it fits 256
bits, and from its decimal text if it fits 64; other than that there is nothing. -/
theorem exact_of_amount (field : Field) (pre post text : List Char)
    (part : Field → Option Json) (base : TxArgs) (s : String) (hslot : Slot field pre post part)
    (hbase : base.FromParts (Function.update part field none)) (hsolid : IsSolid text)
    (hs : s.toList = pre ++ (text ++ post)) :
    (∀ width, field.width? = some width →
      (∀ n, (∃ args, ofText? s = some args ∧ args.number? field = some n) ↔
        text = Nat.toDigits 10 n ∧ n < 2 ^ width) ∧
      (ofText? s = none ↔
        text ≠ "null".toList ∧ ∀ n, text = Nat.toDigits 10 n → 2 ^ width ≤ n)) ∧
    (field = .value →
      (∀ t n, Literal.Spells text (some t) → Quantity.Denotes t n →
        (n < 2 ^ 256 → ∃ args, ofText? s = some args ∧ args.value.toNat = n) ∧
          (2 ^ 256 ≤ n → ofText? s = none)) ∧
      (∀ n, text = Nat.toDigits 10 n →
        (n < 2 ^ 64 → ∃ args, ofText? s = some args ∧ args.value.toNat = n) ∧
          (2 ^ 64 ≤ n → ofText? s = none)) ∧
      ∀ args, ofText? s = some args →
        (∃ t, Literal.Spells text (some t) ∧ Quantity.Denotes t args.value.toNat) ∨
          text = Nat.toDigits 10 args.value.toNat) := by
  refine ⟨fun width hwidth => ⟨fun n => ⟨?_, ?_⟩, ?_, ?_⟩, ?_⟩
  · rintro ⟨args, hread, hnumber⟩
    rcases hslot.number_cases hbase hwidth hsolid hs hread with ⟨-, hnone⟩ | ⟨m, htext, hm, hsome⟩
    · rw [hnone] at hnumber
      cases hnumber
    · rw [hsome] at hnumber
      cases hnumber
      exact ⟨htext, hm⟩
  · rintro ⟨rfl, hn⟩
    exact hslot.exists_number hbase hwidth hn hs
  · intro hnone
    constructor
    · rintro rfl
      rw [hslot.ofText?_null hbase hwidth hs] at hnone
      cases hnone
    · rintro n rfl
      refine Nat.le_of_not_lt fun hn => ?_
      obtain ⟨args, hread, -⟩ := hslot.exists_number hbase hwidth hn hs
      rw [hread] at hnone
      cases hnone
  · rintro ⟨hnull, hdigits⟩
    refine Option.eq_none_iff_forall_ne_some.2 fun args hread => ?_
    rcases hslot.number_cases hbase hwidth hsolid hs hread with ⟨h, -⟩ | ⟨n, htext, hn, -⟩
    · exact hnull h
    · exact absurd hn (Nat.not_lt.2 (hdigits n htext))
  · rintro rfl
    refine ⟨?_, ?_, ?_⟩
    · intro t n htext hn
      exact hslot.value_of_string hbase htext hn hs
    · rintro n rfl
      exact hslot.value_of_digits hbase hs
    · intro args hread
      exact hslot.text_of_value hbase hsolid hs hread

/-- The highest price, the number after it, a number with a leading zero, and a value in hexadecimal
digits of both cases. -/
theorem exact_of_highest_price :
    (∃ args, ofText? "\x7b\"gasPrice\":340282366920938463463374607431768211455\x7d" = some args ∧
        args.number? .gasPrice = some (2 ^ 128 - 1)) ∧
      ofText? "\x7b\"gasPrice\":340282366920938463463374607431768211456\x7d" = none ∧
      ofText? "\x7b\"gasPrice\":01\x7d" = none ∧
      ∃ args, ofText? "\x7b\"value\":\"0X_fF\"\x7d" = some args ∧ args.value.toNat = 255 := by
  have hslot {field : Field} (h : ∀ c ∈ field.key.toList, IsPlain c) :
      Slot field ([] ++ '\x7b' :: ([] ++ ('"' :: (field.key.toList ++ ['"']) ++ [':'])) ++ [])
        ([] ++ ([] ++ '\x7d' :: [])) fun field => ([] ++ []).lookup (some field.key) := by
    have hkey := IsKey.plain h
    rw [String.ofList_toList] at hkey
    refine .member (by decide) .first hkey (by decide) (by decide) .last (by decide) fun v => ?_
    exact ⟨by simp, fun _ _ => List.count_le_length⟩
  have hbase (field : Field) : ({} : TxArgs).FromParts (Function.update (fun field : Field =>
      ([] ++ [] : List (Literal × Json)).lookup (some field.key)) field none) :=
    ofParts?_eq_some_iff.1 (by cases field <;> rfl)
  have hprice {text : List Char} (hsolid : IsSolid text) {s : String}
      (hs : s.toList = "\x7b\"gasPrice\":".toList ++ (text ++ ['\x7d'])) :=
    (exact_of_amount .gasPrice _ _ text _ {} s (hslot (by decide)) (hbase _) hsolid hs).1 128 rfl
  have hnumber (n : Nat) : IsSolid (Nat.toDigits 10 n) := .inl ⟨_, .number (.natural n)⟩
  have hzero : IsSolid ['0', '1'] := .inr ⟨by decide, by decide⟩
  have hofChars {text : List Char} {n : Nat} (h : text = Nat.toDigits 10 n) :
      Number.ofChars text = .natural n :=
    h ▸ Number.ofChars_toDigits n
  refine ⟨?_, ?_, ?_, ?_⟩
  · exact ((hprice (hnumber (2 ^ 128 - 1)) (by decide)).1 _).2 ⟨rfl, by decide⟩
  · refine (hprice (hnumber (2 ^ 128)) (by decide)).2.2 ⟨by decide, fun n hn => ?_⟩
    have hvalue := (Number.ofChars_toDigits (2 ^ 128)).symm.trans (hofChars hn)
    exact (Number.natural.inj hvalue).le
  · refine (hprice hzero (by decide)).2.2 ⟨by decide, fun n hn => ?_⟩
    have hone : Number.ofChars ['0', '1'] = .natural 1 := by decide
    cases hone.symm.trans (hofChars hn)
    exact absurd hn (by decide)
  · have htext : Literal.Spells "\"0X_fF\"".toList (some "0X_fF") :=
      @Literal.Spells.plain ['0', 'X', '_', 'f', 'F'] (by decide)
    have hdenotes : Quantity.Denotes "0X_fF" 255 := Quantity.toNat?_eq_some_iff.1 (by decide)
    exact ((exact_of_amount .value _ _ _ _ {} _ (hslot (by decide)) (hbase _)
      (.inl ⟨_, .string htext⟩) (by decide)).2 rfl).1 _ 255 htext hdenotes |>.1 (by decide)

end TxArgs
end TxForge
