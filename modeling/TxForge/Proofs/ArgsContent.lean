import TxForge.Proofs.ArgsText
import TxForge.Proofs.Denotation
import TxForge.Proofs.JsonRefusals

/-!
# Args are what their text contains

Args are read from a text by what it contains, and nothing else about it counts: not the order of
the members, not the blanks, not the escapes in its strings, and not the members nobody asked for.

* `TxArgs.FromParts` — what the parts have to be for each field.
* `TxArgs.HasParts`, `TxArgs.FromJson` — the same of a value: an object whose keys are in order, or
  an array of the ten parts.
* `TxArgs.FromJson.suits` — such a value has no array that is too long for what is expected, so the
  leniency of the reader does not come into play.
* `TxArgs.determined_of_text` — what is read, and what makes reading fail.
* `TxArgs.undetermined_of_text` — the two ways in which keys could be expected to be treated and
  are not.
-/

set_option autoImplicit false

namespace TxForge
namespace TxArgs

open Json

/-! ## Args and their parts -/

/-- The parts are those of the args, field by field. -/
structure FromParts (args : TxArgs) (part : Field → Option Json) : Prop where
  chainId : IsOptional IsNumber (part .chainId) args.chainId
  nonce : IsOptional IsNumber (part .nonce) args.nonce
  recipient : IsOptional IsFixedBytes (part .recipient) args.recipient
  input : IsDefaulted IsBytes [] (part .input) args.input
  value : IsDefaulted IsQuantity 0 (part .value) args.value
  gasLimit : IsOptional IsNumber (part .gasLimit) args.gasLimit
  gasPrice : IsOptional IsNumber (part .gasPrice) args.gasPrice
  maxFeePerGas : IsOptional IsNumber (part .maxFeePerGas) args.maxFeePerGas
  maxPriorityFeePerGas :
    IsOptional IsNumber (part .maxPriorityFeePerGas) args.maxPriorityFeePerGas
  accessList : IsOptional AccessList.IsList (part .accessList) args.accessList

/-- The value has the parts: an object whose keys are in order has them under the known keys, and
an array of ten items has them at their places. -/
inductive HasParts : Json → (Field → Option Json) → Prop
  | object {members : List (Literal × Json)}
    (hkeys : WellKeyed (Field.all.map Field.key) members) :
    HasParts (.object members) fun field => members.lookup (some field.key)
  | array (value : Field → Json) :
    HasParts (.array (Field.all.map value)) fun field => some (value field)

/-- The value is that of the args, by its parts. -/
def FromJson (args : TxArgs) (v : Json) : Prop :=
  ∃ part, HasParts v part ∧ args.FromParts part

theorem ofParts?_eq_some_iff {part : Field → Option Json} {args : TxArgs} :
    ofParts? part = some args ↔ args.FromParts part := by
  have hnumber {width : Nat} {p : Option Json} {n : Option (BitVec width)} :
      optional? (uint? width) p = some n ↔ IsOptional IsNumber p n :=
    optional?_eq_some_iff (fun _ _ => uint?_eq_some_iff) (by simp [IsNumber])
  have hrecipient {p : Option Json} {a : Option Address} :
      optional? (fixedBytes? 20) p = some a ↔ IsOptional IsFixedBytes p a :=
    optional?_eq_some_iff (fun _ _ => fixedBytes?_eq_some_iff) (by simp [IsFixedBytes, IsBytes])
  have hinput {p : Option Json} {b : Bytes} :
      withDefault? bytes? [] p = some b ↔ IsDefaulted IsBytes [] p b :=
    withDefault?_eq_some_iff fun _ _ => bytes?_eq_some_iff
  have hvalue {p : Option Json} {n : Wei} :
      withDefault? (quantity? 256) 0 p = some n ↔ IsDefaulted IsQuantity 0 p n :=
    withDefault?_eq_some_iff fun _ _ => quantity?_eq_some_iff
  have haccessList {p : Option Json} {list : Option AccessList} :
      optional? AccessList.ofJson? p = some list ↔ IsOptional AccessList.IsList p list :=
    optional?_eq_some_iff AccessList.ofJson?_eq_some_iff (by rintro list ⟨items, h, -⟩; cases h)
  simp only [ofParts?, Option.bind_eq_bind, Option.bind_eq_some_iff, hnumber, hrecipient, hinput,
    hvalue, haccessList]
  constructor
  · rintro ⟨_, h₁, _, h₂, _, h₃, _, h₄, _, h₅, _, h₆, _, h₇, _, h₈, _, h₉, _, h₁₀, h⟩
    cases h
    exact ⟨h₁, h₂, h₃, h₄, h₅, h₆, h₇, h₈, h₉, h₁₀⟩
  · rintro ⟨h₁, h₂, h₃, h₄, h₅, h₆, h₇, h₈, h₉, h₁₀⟩
    exact ⟨_, h₁, _, h₂, _, h₃, _, h₄, _, h₅, _, h₆, _, h₇, _, h₈, _, h₉, _, h₁₀, rfl⟩

theorem Field.all_nodup : Field.all.Nodup := by
  decide

/-- The parts of an array are found at the places of their fields. -/
theorem lookup_zip (value : Field → Json) (field : Field) :
    (Field.all.zip (Field.all.map value)).lookup field = some (value field) := by
  cases field <;> rfl

/-- Ten items are the parts of the ten fields. -/
theorem exists_eq_map_all {items : List Json} (h : items.length = Field.all.length) :
    ∃ value : Field → Json, items = Field.all.map value := by
  refine ⟨fun field => items.getD (Field.all.idxOf field) .null, ?_⟩
  refine List.ext_getElem (by simp [h]) fun i hi hi' => ?_
  rw [List.getElem_map, Field.all_nodup.idxOf_getElem, List.getD_eq_getElem?_getD,
    List.getElem?_eq_getElem hi, Option.getD_some]

theorem HasParts.ofJson?_eq {v : Json} {part : Field → Option Json} (h : HasParts v part) :
    ofJson? v = ofParts? part := by
  cases h with
  | object hkeys =>
    obtain ⟨parts, hparts, hlookup⟩ := hkeys.exists_members
    rw [ofJson?, hparts, Option.bind_eq_bind, Option.bind_some]
    exact congrArg ofParts? (funext fun field => hlookup _ (List.mem_map_of_mem field.mem_all))
  | array value =>
    rw [ofJson?, if_pos (List.length_map _)]
    exact congrArg ofParts? (funext fun field => lookup_zip value field)

/-- What is read has parts. -/
theorem exists_hasParts {v : Json} {args : TxArgs} (h : ofJson? v = some args) :
    ∃ part, HasParts v part := by
  unfold ofJson? at h
  split at h
  · obtain ⟨parts, hparts, -⟩ := Option.bind_eq_some_iff.1 h
    exact ⟨_, .object (wellKeyed_of_members? hparts)⟩
  · split at h
    · rename_i hlength
      obtain ⟨value, rfl⟩ := exists_eq_map_all hlength
      exact ⟨_, .array value⟩
    · cases h
  · cases h

/-- **Args are read from the values that are theirs**, and from no others. -/
theorem ofJson?_eq_some_iff {v : Json} {args : TxArgs} :
    ofJson? v = some args ↔ args.FromJson v := by
  constructor
  · intro h
    obtain ⟨part, hpart⟩ := exists_hasParts h
    exact ⟨part, hpart, ofParts?_eq_some_iff.1 (hpart.ofJson?_eq ▸ h)⟩
  · rintro ⟨part, hpart, h⟩
    rw [hpart.ofJson?_eq, ofParts?_eq_some_iff.2 h]

/-- A value has its parts in one way. -/
theorem HasParts.fromJson_iff {v : Json} {part : Field → Option Json} (h : HasParts v part)
    {args : TxArgs} : args.FromJson v ↔ args.FromParts part := by
  rw [← ofJson?_eq_some_iff, h.ofJson?_eq, ofParts?_eq_some_iff]

/-! ## What suits the layout -/

/-- The part of a field suits its layout. -/
theorem FromParts.suits {args : TxArgs} {part : Field → Option Json} (h : args.FromParts part)
    {field : Field} {v : Json} (hv : part field = some v) (hany : Suits .any v) :
    Suits field.layout v := by
  cases field with
  | recipient =>
    rcases (hv ▸ h.recipient).eq_null_or with ⟨rfl, -⟩ | ⟨b, hb, -⟩
    · trivial
    · exact hb.suits
  | accessList =>
    rcases (hv ▸ h.accessList).eq_null_or with ⟨rfl, -⟩ | ⟨list, hlist, -⟩
    · trivial
    · exact hlist.suits hany
  | _ => exact hany

/-- A value suits the layout if its parts suit their fields. -/
theorem HasParts.suits {v : Json} {part : Field → Option Json} (h : HasParts v part)
    (hany : Suits .any v)
    (hpart : ∀ field v, part field = some v → Suits .any v → Suits field.layout v) :
    Suits layout v := by
  cases h with
  | object hkeys =>
    have hlayout : layout = .record (Field.all.map fun field => (field.key, field.layout)) := rfl
    rw [hlayout]
    refine WellKeyed.suits ?_ hany fun key value hvalue layout hkey => ?_
    · rw [List.map_map]
      exact hkeys
    · obtain ⟨field, -, hfield⟩ := List.mem_map.1 (mem_of_lookup hkey)
      cases hfield
      exact hpart field value hvalue (membersSuit_iff.1 hany _ (mem_of_lookup hvalue))
  | array value =>
    have hall := itemsSuit_any_iff.1 hany
    refine suits_items ?_
    rw [List.forall₂_map_left_iff, List.forall₂_map_right_iff, List.forall₂_same]
    intro field hfield
    exact hpart field _ rfl (hall _ (List.mem_map_of_mem hfield))

/-- Whatever is put in the place of a plain field, the value suits the layout if the other parts
do. -/
theorem suits_update {w v : Json} {part : Field → Option Json} {field : Field} {base : TxArgs}
    (hw : HasParts w (Function.update part field (some v))) (hany : Suits .any w)
    (hbase : base.FromParts (Function.update part field none)) (hlayout : field.layout = .any) :
    Suits layout w := by
  refine hw.suits hany fun field' v' hv' hany' => ?_
  by_cases hfield : field' = field
  · subst hfield
    rw [hlayout]
    exact hany'
  · rw [Function.update_of_ne hfield] at hv'
    refine hbase.suits ?_ hany'
    rw [Function.update_of_ne hfield, hv']

/-- **What is read as args is never too long** for what is expected. -/
theorem FromJson.suits {args : TxArgs} {v : Json} (h : args.FromJson v) (hany : Suits .any v) :
    Suits layout v := by
  obtain ⟨part, hpart, h⟩ := h
  exact hpart.suits hany fun field v => h.suits

/-! ## Reading -/

/-- A text is read as what it contains. -/
theorem ofText?_eq_some_iff {text : String} {v : Json} (h : IsText text.toList v)
    (hv : Suits layout v) {args : TxArgs} : ofText? text = some args ↔ args.FromJson v := by
  rw [ofText?, readAs?_of_isText h hv, Option.bind_some, ofJson?_eq_some_iff]

/-- The text starts with an object in which a known key is there twice.  What follows the key the
second time does not matter; what is in front of it suits the layout. -/
inductive RepeatsKey : List Char → Prop
  | object {before front ktext rest : List Char} {members : List (Literal × Json)} {field : Field}
    (hbefore : AreBlank before) (hfront : LeadsMembers front members)
    (hsuits : MembersSuit layout members) (hmem : some field.key ∈ members.map (·.1))
    (hkey : IsKey ktext (some field.key)) :
    RepeatsKey (before ++ '\x7b' :: (front ++ (ktext ++ ':' :: rest)))

/-- A known key that is there twice is enough for a refusal. -/
theorem ofText?_eq_none_of_repeatsKey {text : String} (h : RepeatsKey text.toList) :
    ofText? text = none := by
  refine Option.eq_none_iff_forall_ne_some.2 fun args hread => ?_
  obtain ⟨v, hv, hargs⟩ := Option.bind_eq_some_iff.1 hread
  generalize hchars : text.toList = chars at h
  obtain @⟨before, front, ktext, rest, members, field, hbefore, hfront, hsuits, hmem, hkey⟩ := h
  have htext : text.toList = (before ++ '\x7b' :: (front ++ (ktext ++ [':']))) ++ rest := by
    rw [hchars]
    simp
  have hkeys := keys_of_readAs? htext (run_front_members hbefore hfront hsuits hkey) hv
  have htwice : 2 ≤ v.keys.count (some field.key) := by
    have hcount : (some field.key :: members.reverse.map (·.1)).count (some field.key) ≤
        v.keys.count (some field.key) := hkeys.sublist.count_le _
    have hpos : 0 < (members.reverse.map (·.1)).count (some field.key) :=
      List.count_pos_iff.2 (by simpa using hmem)
    rw [List.count_cons_self] at hcount
    omega
  obtain ⟨part, hpart⟩ := exists_hasParts hargs
  cases hpart with
  | object hkeys' =>
    have honce := hkeys'.once field.key (List.mem_map_of_mem field.mem_all)
    rw [Json.keys, List.count_reverse] at htwice
    omega
  | array => simp [Json.keys] at htwice

/-- `null` is no input and no value. -/
theorem FromParts.ne_null {args : TxArgs} {part : Field → Option Json} (h : args.FromParts part)
    {field : Field} (hfield : field = .input ∨ field = .value) : part field ≠ some .null := by
  intro hnull
  rcases hfield with rfl | rfl
  · rcases hnull ▸ h.input with _ | h
    simp [IsBytes] at h
  · rcases hnull ▸ h.value with _ | h
    simp [IsQuantity] at h

/-- So it is refused in their place, whatever the other parts are. -/
theorem HasParts.ofText?_eq_none_of_null {text : String} {v : Json} {part : Field → Option Json}
    (hpart : HasParts v part) {field : Field} (hfield : field = .input ∨ field = .value)
    (htext : IsText text.toList v) {base : TxArgs}
    (hbase : base.FromParts (Function.update part field none)) (hnull : part field = some .null) :
    ofText? text = none := by
  have hlayout : field.layout = .any := by rcases hfield with rfl | rfl <;> rfl
  have hupdate : HasParts v (Function.update part field (some .null)) := by
    rwa [← hnull, Function.update_eq_self]
  have hsuits := suits_update hupdate htext.suits_any hbase hlayout
  refine Option.eq_none_iff_forall_ne_some.2 fun args hread => ?_
  have hargs := (ofText?_eq_some_iff htext hsuits).1 hread
  exact (hpart.fromJson_iff.1 hargs).ne_null hfield hnull

/-- Behind args there is room for blanks only. -/
theorem ofText?_append_eq_none {text rest : String} {args : TxArgs} (h : ofText? text = some args)
    (hrest : ¬ AreBlank rest.toList) : ofText? (text ++ rest) = none := by
  obtain ⟨v, hv, hargs⟩ := Option.bind_eq_some_iff.1 h
  have hnumber : ∀ n, v ≠ .number n := by
    rintro n rfl
    cases hargs
  rw [ofText?, readAs?_append_eq_none hv hnumber hrest]
  rfl

/-- **Args are read from what their text contains**: from every text of an object or an array of
their parts.  Of the texts of a value that suits the layout no other is read.  A known key that is
there twice, `null` for an input or a value, and anything behind the args make reading fail. -/
theorem determined_of_text :
    (∀ (args : TxArgs) (text : String) (v : Json), IsText text.toList v → args.FromJson v →
      ofText? text = some args) ∧
      (∀ (args : TxArgs) (text : String) (v : Json), IsText text.toList v → Suits layout v →
        ofText? text = some args → args.FromJson v) ∧
      (∀ text : String, RepeatsKey text.toList → ofText? text = none) ∧
      (∀ (field : Field) (base : TxArgs) (text : String) (v : Json) (part : Field → Option Json),
        field = .input ∨ field = .value → IsText text.toList v → HasParts v part →
          base.FromParts (Function.update part field none) → part field = some .null →
            ofText? text = none) ∧
      ∀ (args : TxArgs) (text rest : String), ofText? text = some args →
        ¬ AreBlank rest.toList → ofText? (text ++ rest) = none := by
  refine ⟨?_, ?_, ?_, ?_, ?_⟩
  · intro args text v htext hv
    exact (ofText?_eq_some_iff htext (hv.suits htext.suits_any)).2 hv
  · intro args text v htext hv
    exact (ofText?_eq_some_iff htext hv).1
  · intro text htext
    exact ofText?_eq_none_of_repeatsKey htext
  · intro field base text v part hfield htext hpart hbase hnull
    exact hpart.ofText?_eq_none_of_null hfield htext hbase hnull
  · intro args text rest htext hrest
    exact ofText?_append_eq_none htext hrest

/-- `n` bytes of an array, with a comma behind each. -/
def ones (n : Nat) : List Char :=
  (List.replicate n ['1', ',']).flatten

theorem spellsItems_ones (n : Nat) {rest : List Char} {items : List Json}
    (h : SpellsItems rest items) :
    SpellsItems (ones n ++ rest) (List.replicate n (.ofNat 1) ++ items) :=
  .replicate_append (Spells.number (.natural 1)).isText h n

/-- Three members: an unknown one, a list with one item, which is an array of a byte array and no
keys, and a nonce with blanks around its colon. -/
def mixed : String :=
  "\"x\":\x7b\"y\":[null]\x7d,\"accessList\":[[[1,1,1,1,1,1,1,1,1,1,1,1,1,1,1,1,1,1,1,1],[]]]," ++
    "\"nonce\" : 5"

/-- The members that it spells. -/
def mixedMembers : List (Literal × Json) :=
  [(some "x", .object [(some "y", .array [.null])]),
    (some "accessList", .array [.array [.array (List.replicate 20 (.ofNat 1)), .array []]]),
    (some "nonce", .ofNat 5)]

theorem spellsMembers_mixed : SpellsMembers mixed.toList mixedMembers := by
  have hinner : Spells _ (.array [.null]) := .items (.one Spells.null.isText)
  have hunknown : Spells _ (.object [(some "y", .array [.null])]) :=
    .members (.one (@IsKey.plain ['y'] (by decide)) hinner.isText)
  have haddress : Spells _ (.array (List.replicate 20 (.ofNat 1))) :=
    .items (spellsItems_ones 19 (.one (Spells.number (.natural 1)).isText))
  have hkeys : Spells ['[', ']'] (.array []) := @Spells.noItems [] (by decide)
  have hitem : Spells _ (.array [.array (List.replicate 20 (.ofNat 1)), .array []]) :=
    .items (.cons haddress.isText (.one hkeys.isText))
  have hlist : Spells _ (.array [.array [.array (List.replicate 20 (.ofNat 1)), .array []]]) :=
    .items (.one hitem.isText)
  have hname : Literal.Spells _ (some "nonce") := @Literal.Spells.plain "nonce".toList (by decide)
  have hnonce : IsKey _ (some "nonce") := @IsKey.padded [] _ [' '] _ (by decide) hname (by decide)
  have hfive : IsText _ (.ofNat 5) :=
    @IsText.padded [' '] _ [] _ (by decide) (.number (.natural 5)) (by decide)
  have h : SpellsMembers _ mixedMembers :=
    .cons (@IsKey.plain ['x'] (by decide)) hunknown.isText
      (.cons (@IsKey.plain "accessList".toList (by decide)) hlist.isText
        (.one hnonce hfive))
  refine cast (congrArg (fun text => SpellsMembers text _) ?_) h
  decide +kernel

/-- An object of these members, which stand in another order than the fields.  Neither another nonce
nor a comma may follow. -/
theorem determined_of_nonce :
    let item : AccessListItem := ⟨⟨List.replicate 20 1, rfl⟩, []⟩
    ofText? ("\x7b" ++ mixed ++ "\x7d") = some { nonce := some 5, accessList := some [item] } ∧
      ofText? ("\x7b" ++ mixed ++ ",\"nonce\":") = none ∧
      ofText? ("\x7b" ++ mixed ++ "\x7d" ++ ",") = none ∧
      ofText? "\x7b\"input\":null\x7d" = none := by
  intro item
  have hchars (behind : String) : ("\x7b" ++ mixed ++ behind).toList =
      '\x7b' :: (mixed.toList ++ behind.toList) := by
    rw [String.toList_append, String.toList_append]
    rfl
  have htext : IsText ("\x7b" ++ mixed ++ "\x7d").toList (.object mixedMembers) := by
    rw [hchars]
    exact (Spells.members spellsMembers_mixed).isText
  have hargs : ({ nonce := some 5, accessList := some [item] } : TxArgs).FromJson
      (.object mixedMembers) := ofJson?_eq_some_iff.1 (by decide)
  have hread := determined_of_text.1 _ _ _ htext hargs
  refine ⟨hread, ?_, ?_, ?_⟩
  · have htwice := @RepeatsKey.object [] _ _ [] _ .nonce (by decide) (.behind spellsMembers_mixed)
      (hargs.suits htext.suits_any) (by decide) (@IsKey.plain "nonce".toList (by decide))
    refine determined_of_text.2.2.1 _ ?_
    rw [hchars]
    simpa using htwice
  · exact determined_of_text.2.2.2.2 _ _ _ hread (by decide)
  · have hinput : IsKey _ (some "input") := @IsKey.plain "input".toList (by decide)
    have hnull : IsText "\x7b\"input\":null\x7d".toList (.object [(some "input", .null)]) :=
      (Spells.members (.one hinput Spells.null.isText)).isText
    exact determined_of_text.2.2.2.1 .input {} _ _ _ (.inl rfl) hnull
      (.object ⟨by simp, by decide⟩) (ofParts?_eq_some_iff.1 (by decide)) rfl

/-! ## What content does not determine

Two texts of objects in which a known key stands once or twice, and which are not treated by that.
In the first an unknown key denotes no text.  In the second, every array of bytes has all the bytes
that it may have and a string behind them.  As far as the reader is concerned that string ends
within the text of its grammar, at half of a surrogate pair or at the end of a line, and from there
on the reader takes for strings what stands between them, until the next such array puts it right.
So a key of the outermost object comes to be one of an item of its access list.
-/

/-- An object with two access lists, of which the reader takes the second for a part of the
first. -/
def slipped : List Char :=
  "\x7b\"accessList\":[\x7b\"storageKeys\":[[".toList ++ ones 32 ++ "\"\\udc00],[".toList ++
    ones 32 ++ "\"]]\x7d],\"],[".toList ++ ones 32 ++ "\":[[\"],[".toList ++ ones 32 ++
    "\"\n]],\"accessList\":[],\"address\":[".toList ++ ones 20 ++ "\"\\udc00]\x7d,[[".toList ++
    ones 20 ++ "\",[[\"],[]],[[".toList ++ ones 20 ++ "\"\n],[]]]\x7d".toList

/-- The name of an unknown key. -/
def slippedName : List Char :=
  "],[".toList ++ ones 32

/-- The members of the object behind its first access list. -/
def slippedMembers : List (Literal × Json) :=
  [(some (String.ofList slippedName), .array [.array [.ofText (String.ofList slippedName)]]),
    (some "accessList", .array []),
    (some "address", .array (List.replicate 20 (.ofNat 1) ++ [.string none,
      .array [.array [.ofText (String.ofList ("],[]],[[".toList ++ ones 20))], .array []]]))]

/-- The first access list. -/
def slippedList : Json :=
  .array [.object [(some "storageKeys",
    .array [.array (List.replicate 32 (.ofNat 1) ++ [.string none])])]]

theorem isText_slipped :
    IsText slipped (.object ((some "accessList", slippedList) :: slippedMembers)) := by
  have hhalf (text : List Char) (h : ∀ c ∈ text, IsPlain c) :
      Spells ('"' :: (['\\', 'u', 'd', 'c', '0', '0'] ++ text ++ ['"'])) (.string none) := by
    have hunit : Glyph ['\\', 'u', 'd', 'c', '0', '0'] (.unit 0xdc00) :=
      @Glyph.unit 'd' 'c' '0' '0' 13 12 0 0 (by decide) (by decide) (by decide) (by decide)
    have hliteral : Piece.literal (.unit 0xdc00 :: text.map .char) = none := by
      rw [Piece.literal, Piece.decode?.eq_def]
      rfl
    exact .string (hliteral ▸ .quoted (.cons hunit (.plain h)))
  have hnone : Spells ['[', ']'] (.array []) := @Spells.noItems [] (by decide)
  -- the first access list
  have hkeys : Spells _ (.array [.array (List.replicate 32 (.ofNat 1) ++ [.string none])]) :=
    .items (.one (Spells.items (spellsItems_ones 32 (.one (hhalf
      ("],[".toList ++ ones 32) (by decide)).isText))).isText)
  have hlist : Spells _ slippedList :=
    .items (.one (Spells.members (.one (@IsKey.plain "storageKeys".toList (by decide))
      hkeys.isText)).isText)
  -- the unknown member behind it
  have hname : Spells _ (.ofText (String.ofList slippedName)) := .string (.plain (by decide))
  have hunknown : Spells _ (.array [.array [.ofText (String.ofList slippedName)]]) :=
    .items (.one (Spells.items (.one
      (@IsText.padded [] _ ['\n'] _ (by decide) hname (by decide)))).isText)
  -- the address, which is no more known than the other
  have hinner : Spells _ (.array [.array [.ofText (String.ofList ("],[]],[[".toList ++ ones 20))],
      .array []]) :=
    .items (.cons (Spells.items (.one (@IsText.padded [] _ ['\n'] _ (by decide)
      (.string (.plain (by decide))) (by decide)))).isText (.one hnone.isText))
  have haddress : Spells _ (.array (List.replicate 20 (.ofNat 1) ++ [.string none,
      .array [.array [.ofText (String.ofList ("],[]],[[".toList ++ ones 20))], .array []]])) :=
    .items (spellsItems_ones 20 (.cons (hhalf ("]\x7d,[[".toList ++ ones 20) (by decide)).isText
      (.one hinner.isText)))
  have h := (Spells.members (.cons (@IsKey.plain "accessList".toList (by decide)) hlist.isText
    (.cons (@IsKey.plain slippedName (by decide)) hunknown.isText
      (.cons (@IsKey.plain "accessList".toList (by decide)) hnone.isText
        (.one (@IsKey.plain "address".toList (by decide)) haddress.isText))))).isText
  refine cast (congrArg (fun text => IsText text _) ?_) h
  decide +kernel

/-- **Two objects whose keys are not treated by what they are.**  One has nothing but an unknown
key, which is no text, and is refused; the other has a key that it had before, and is read. -/
theorem undetermined_of_text :
    (IsText "\x7b\"\\ud800\":1\x7d".toList (.object [(none, .ofNat 1)]) ∧
      ({} : TxArgs).FromParts (fun field =>
        [((none : Literal), Json.ofNat 1)].lookup (some field.key)) ∧
      ofText? "\x7b\"\\ud800\":1\x7d" = none) ∧
    IsText slipped (.object ((some Field.accessList.key, slippedList) :: slippedMembers)) ∧
      FromJson { accessList := some [] } (.object slippedMembers) ∧
      (ofText? (String.ofList slipped)).isSome = true := by
  refine ⟨⟨?_, ?_, ?_⟩, isText_slipped, ?_, ?_⟩
  · have hunit : Glyph ['\\', 'u', 'd', '8', '0', '0'] (.unit 0xd800) :=
      @Glyph.unit 'd' '8' '0' '0' 13 8 0 0 (by decide) (by decide) (by decide) (by decide)
    have hkey : IsKey "\"\\ud800\"".toList none := (Literal.Spells.quoted (.cons hunit .nil)).isKey
    have hvalue : IsText ['1'] (.ofNat 1) := (Spells.number (.natural 1)).isText
    exact (Spells.members (.one hkey hvalue)).isText
  · exact ofParts?_eq_some_iff.1 (by decide)
  · decide +kernel
  · exact ofJson?_eq_some_iff.1 (by decide +kernel)
  · rw [ofText?, readAs?, String.toList_ofList]
    decide +kernel

end TxArgs
end TxForge
