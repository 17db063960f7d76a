import Mathlib.Data.List.Count
import TxForge.AccessList
import TxForge.Proofs.Digits
import TxForge.Proofs.JsonParts

/-!
# What JSON values denote

Which values stand for a number, for bytes or for an access list, said of the values and without a
reader.  A thing may have many values: bytes are given by a text or by an array, an item of an
access list by an object or by a pair, and a part that is not set by `null` or by nothing.

Every reader is shown to agree with what is said here, in both directions (`uint?_eq_some_iff`,
`bytes?_eq_some_iff`, `quantity?_eq_some_iff` and so on).

* `Json.WellKeyed` — what is asked of the keys of an object: that all of them are texts, and that
  no known one is there twice.  Then the order of the members does not matter, nor do others.
* `AccessList.IsItem`, `AccessList.IsList` — the two forms of an item, and lists of them.
* `AccessList.IsList.suits` — what denotes a list suits the layout of one.
-/

set_option autoImplicit false

namespace TxForge
namespace Json

/-! ## Single values -/

/-- The value is the number. -/
def IsNumber {width : Nat} (v : Json) (n : BitVec width) : Prop :=
  v = .ofNat n.toNat

/-- The value denotes the byte string, by its digits or byte by byte. -/
def IsBytes (v : Json) (b : Bytes) : Prop :=
  (∃ text, v = .ofText text ∧ Hex.Denotes text b) ∨
    v = .array (b.map fun byte => .ofNat byte.toNat)

/-- The value denotes the byte string of fixed length. -/
def IsFixedBytes {n : Nat} (v : Json) (b : FixedBytes n) : Prop :=
  v.IsBytes b.toBytes

/-- The value denotes the quantity, by a text or, up to 64 bits, by a number. -/
def IsQuantity {width : Nat} (v : Json) (n : BitVec width) : Prop :=
  (∃ text, v = .ofText text ∧ Quantity.Denotes text n.toNat) ∨
    v = .ofNat n.toNat ∧ n.toNat < capacity 64

/-- The value is an array of values that denote the items of a list. -/
def IsListOf {α : Type} (R : Json → α → Prop) (v : Json) (as : List α) : Prop :=
  ∃ items, v = .array items ∧ List.Forall₂ R items as

theorem natural?_eq_some_iff {v : Json} {n : Nat} : v.natural? = some n ↔ v = .ofNat n := by
  cases v with
  | number m => cases m <;> simp [natural?]
  | _ => simp [natural?]

theorem uint?_eq_some_iff {width : Nat} {v : Json} {n : BitVec width} :
    v.uint? width = some n ↔ v.IsNumber n := by
  simp only [uint?, Option.bind_eq_some_iff, natural?_eq_some_iff, bounded?_eq_some_iff, IsNumber]
  constructor
  · rintro ⟨m, rfl, hm⟩
    rw [hm]
  · exact fun h => ⟨_, h, rfl⟩

theorem byte?_eq_some_iff {v : Json} {byte : UInt8} :
    v.byte? = some byte ↔ v = .ofNat byte.toNat := by
  simp only [byte?, Option.bind_eq_some_iff, natural?_eq_some_iff]
  constructor
  · rintro ⟨m, rfl, hm⟩
    split at hm
    · rename_i hlt
      cases hm
      rw [UInt8.toNat_ofNat', Nat.mod_eq_of_lt hlt]
    · cases hm
  · rintro rfl
    exact ⟨_, rfl, by rw [if_pos byte.toNat_lt, UInt8.ofNat_toNat]⟩

/-- A law of items is one of lists of them. -/
theorem mapM_eq_some_iff {α β : Type} {f : β → Option α} {R : β → α → Prop}
    (h : ∀ b a, f b = some a ↔ R b a) {items : List β} {as : List α} :
    items.mapM f = some as ↔ List.Forall₂ R items as := by
  induction items generalizing as with
  | nil => simp [eq_comm]
  | cons v items ih =>
    rw [List.mapM_cons]
    constructor
    · intro hread
      obtain ⟨a, ha, hread⟩ := Option.bind_eq_some_iff.1 hread
      obtain ⟨as, has, hread⟩ := Option.bind_eq_some_iff.1 hread
      cases hread
      exact .cons ((h v a).1 ha) (ih.1 has)
    · rintro (_ | ⟨ha, has⟩)
      rw [(h v _).2 ha, Option.bind_eq_bind, Option.bind_some, ih.2 has]
      rfl

theorem bytes?_eq_some_iff {v : Json} {b : Bytes} : v.bytes? = some b ↔ v.IsBytes b := by
  cases v with
  | string s =>
    cases s with
    | none => simp [bytes?, IsBytes]
    | some s => simp [bytes?, IsBytes, Hex.decode?_eq_some_iff]
  | array items =>
    rw [bytes?, mapM_eq_some_iff fun v byte => byte?_eq_some_iff,
      ← List.forall₂_map_right_iff, List.forall₂_eq_eq_eq]
    simp [IsBytes]
  | _ => simp [bytes?, IsBytes]

theorem fixedBytes?_eq_some_iff {n : Nat} {v : Json} {f : FixedBytes n} :
    v.fixedBytes? n = some f ↔ v.IsFixedBytes f := by
  simp only [fixedBytes?, Option.bind_eq_some_iff, bytes?_eq_some_iff, IsFixedBytes]
  constructor
  · rintro ⟨b, hb, hf⟩
    rwa [FixedBytes.toBytes_of_ofBytes? hf]
  · exact fun h => ⟨_, h, FixedBytes.ofBytes?_toBytes f⟩

theorem quantity?_eq_some_iff {width : Nat} {v : Json} {n : BitVec width} :
    v.quantity? width = some n ↔ v.IsQuantity n := by
  cases v with
  | string s =>
    cases s with
    | none => simp [quantity?, IsQuantity]
    | some s =>
      simp only [quantity?, Quantity.parse?, Option.bind_eq_some_iff, bounded?_eq_some_iff,
        Quantity.toNat?_eq_some_iff, IsQuantity]
      simp
  | number m =>
    cases m with
    | natural m =>
      rw [quantity?, Option.ite_none_right_eq_some, bounded?_eq_some_iff]
      constructor
      · rintro ⟨hlt, rfl⟩
        exact .inr ⟨rfl, hlt⟩
      · rintro (⟨text, h, -⟩ | ⟨h, hlt⟩) <;> cases h
        exact ⟨hlt, rfl⟩
    | spelled text => simp [quantity?, IsQuantity]
  | _ => simp [quantity?, IsQuantity]

theorem list?_eq_some_iff {α : Type} {f : Json → Option α} {R : Json → α → Prop}
    (h : ∀ v a, f v = some a ↔ R v a) {v : Json} {as : List α} :
    v.list? f = some as ↔ v.IsListOf R as := by
  cases v with
  | array items => simp [list?, IsListOf, mapM_eq_some_iff h]
  | _ => simp [list?, IsListOf]

/-! ## Parts of a record -/

/-- The part denotes an optional thing: missing and `null` stand for none. -/
inductive IsOptional {α : Type} (R : Json → α → Prop) : Option Json → Option α → Prop
  | missing : IsOptional R none none
  | null : IsOptional R (some .null) none
  | given {v : Json} {a : α} (h : R v a) : IsOptional R (some v) (some a)

/-- The part denotes a thing that is the default where the part is missing. -/
inductive IsDefaulted {α : Type} (R : Json → α → Prop) (default : α) : Option Json → α → Prop
  | missing : IsDefaulted R default none default
  | given {v : Json} {a : α} (h : R v a) : IsDefaulted R default (some v) a

theorem IsOptional.eq_null_or {α : Type} {R : Json → α → Prop} {v : Json} {a : Option α}
    (h : IsOptional R (some v) a) : (v = .null ∧ a = none) ∨ ∃ b, R v b ∧ a = some b := by
  cases h with
  | null => exact .inl ⟨rfl, rfl⟩
  | given h => exact .inr ⟨_, h, rfl⟩

theorem optional?_eq_some_iff {α : Type} {f : Json → Option α} {R : Json → α → Prop}
    (h : ∀ v a, f v = some a ↔ R v a) (hnull : ∀ a, ¬ R .null a) {part : Option Json}
    {a : Option α} : optional? f part = some a ↔ IsOptional R part a := by
  constructor
  · intro hread
    unfold optional? at hread
    split at hread
    · cases hread
      exact .missing
    · cases hread
      exact .null
    · obtain ⟨b, hb, rfl⟩ := Option.map_eq_some_iff.1 hread
      exact .given ((h _ b).1 hb)
  · rintro (_ | _ | hgiven)
    · rfl
    · rfl
    · rename_i v a
      have hread := (h v a).2 hgiven
      cases v with
      | null => exact (hnull a hgiven).elim
      | _ => exact congrArg (Option.map some) hread

theorem withDefault?_eq_some_iff {α : Type} {f : Json → Option α} {R : Json → α → Prop}
    (h : ∀ v a, f v = some a ↔ R v a) {default : α} {part : Option Json} {a : α} :
    withDefault? f default part = some a ↔ IsDefaulted R default part a := by
  constructor
  · intro hread
    cases part with
    | none =>
      cases hread
      exact .missing
    | some v => exact .given ((h v a).1 hread)
  · rintro (_ | hgiven)
    · rfl
    · exact (h _ _).2 hgiven

/-! ## Keys -/

/-- Every key is a text, and no known key is there twice. -/
structure WellKeyed (known : List String) (members : List (Literal × Json)) : Prop where
  texts : ∀ member ∈ members, member.1 ≠ none
  once : ∀ key ∈ known, (members.map (·.1)).count (some key) ≤ 1

variable {known : List String} {members : List (Literal × Json)}

/-- Members whose keys are texts are named by them. -/
theorem exists_named (h : ∀ member ∈ members, member.1 ≠ none) :
    ∃ named : List (String × Json), members = named.map (Prod.map some id) := by
  induction members with
  | nil => exact ⟨[], rfl⟩
  | cons member members ih =>
    obtain ⟨key, value⟩ := member
    obtain ⟨hkey, hmembers⟩ := List.forall_mem_cons.1 h
    obtain ⟨name, rfl⟩ := Option.ne_none_iff_exists'.1 hkey
    obtain ⟨named, rfl⟩ := ih hmembers
    exact ⟨(name, value) :: named, rfl⟩

theorem mapM_name_eq_some_iff {named : List (String × Json)} :
    members.mapM (fun (key, value) => key.map (·, value)) = some named ↔
      members = named.map (Prod.map some id) := by
  have hname (member : Literal × Json) (pair : String × Json) :
      (fun (key, value) => Option.map (·, value) key) member = some pair ↔
        member = Prod.map some id pair := by
    obtain ⟨_ | key, value⟩ := member <;> simp [Prod.ext_iff]
  rw [mapM_eq_some_iff hname, ← List.forall₂_map_right_iff, List.forall₂_eq_eq_eq]

theorem members?_named (known : List String) (named : List (String × Json)) :
    members? known (named.map (Prod.map some id)) =
      let kept := named.filter fun (key, _) => known.contains key
      if (kept.map (·.1)).Nodup then some kept else none := by
  rw [members?, mapM_name_eq_some_iff.2 rfl]
  rfl

/-- Members are well keyed if those that are kept differ in their keys. -/
theorem wellKeyed_named_iff (named : List (String × Json)) :
    WellKeyed known (named.map (Prod.map some id)) ↔
      ((named.filter fun (key, _) => known.contains key).map (·.1)).Nodup := by
  have hcount (key : String) : ((named.map (Prod.map (some : String → Literal) id)).map
      (·.1)).count (some key) = (named.map (·.1)).count key := by
    rw [← List.count_map_of_injective (named.map (·.1)) some (Option.some_injective String),
      List.map_map, List.map_map]
    rfl
  have hkept : (named.filter fun (key, _) => known.contains key).map (·.1) =
      (named.map (·.1)).filter known.contains := by
    rw [List.filter_map]
    rfl
  rw [hkept, List.nodup_iff_count_le_one]
  constructor
  · intro h key
    by_cases hkey : key ∈ known
    · rw [List.count_filter (by simpa using hkey), ← hcount]
      exact h.once key hkey
    · have hnot : key ∉ (named.map (·.1)).filter known.contains :=
        fun hmem => hkey (by simpa using (List.mem_filter.1 hmem).2)
      rw [List.count_eq_zero_of_not_mem hnot]
      exact Nat.zero_le 1
  · refine fun h => ⟨fun member hmember => ?_, fun key hkey => ?_⟩
    · obtain ⟨pair, -, rfl⟩ := List.mem_map.1 hmember
      exact Option.some_ne_none _
    · rw [hcount, ← List.count_filter (p := known.contains) (by simpa using hkey)]
      exact h key

theorem lookup_named (named : List (String × Json)) (key : String) :
    (named.map (Prod.map (some : String → Literal) id)).lookup (some key) = named.lookup key := by
  induction named with
  | nil => rfl
  | cons member named ih =>
    rw [List.map_cons, List.lookup_cons, List.lookup_cons, ih]
    rfl

theorem lookup_kept {key : String} (hkey : key ∈ known) (named : List (String × Json)) :
    (named.filter fun (key, _) => known.contains key).lookup key = named.lookup key := by
  induction named with
  | nil => rfl
  | cons member named ih =>
    obtain ⟨name, value⟩ := member
    rw [List.filter_cons, List.lookup_cons, ← ih]
    by_cases hname : known.contains name = true
    · rw [if_pos hname, List.lookup_cons]
    · have hne : key ≠ name := by
        rintro rfl
        exact hname (by simpa using hkey)
      rw [if_neg hname, beq_false_of_ne hne]

/-- **The members of an object that is well keyed are found under their keys**, wherever they stand
and whatever else there is. -/
theorem WellKeyed.exists_members (h : WellKeyed known members) :
    ∃ parts, members? known members = some parts ∧
      ∀ key ∈ known, parts.lookup key = members.lookup (some key) := by
  obtain ⟨named, rfl⟩ := exists_named h.texts
  refine ⟨named.filter fun (key, _) => known.contains key, ?_, fun key hkey => ?_⟩
  · rw [members?_named]
    exact if_pos ((wellKeyed_named_iff named).1 h)
  · rw [lookup_kept hkey, lookup_named]

/-- No other object is taken. -/
theorem wellKeyed_of_members? {parts : List (String × Json)}
    (h : members? known members = some parts) : WellKeyed known members := by
  obtain ⟨named, hnamed, -⟩ := Option.bind_eq_some_iff.1 h
  obtain rfl := mapM_name_eq_some_iff.1 hnamed
  rw [members?_named] at h
  exact (wellKeyed_named_iff named).2 (Option.ite_none_right_eq_some.1 h).1

/-- A known member is the one that is found under its key. -/
theorem WellKeyed.lookup_eq (h : WellKeyed known members) {key : String} (hkey : key ∈ known)
    {value : Json} (hmem : (some key, value) ∈ members) :
    members.lookup (some key) = some value := by
  have honce := h.once key hkey
  clear h
  induction members with
  | nil => cases hmem
  | cons member members ih =>
    rw [List.map_cons, List.count_cons] at honce
    rw [List.lookup_cons]
    rcases List.mem_cons.1 hmem with rfl | hmem
    · rw [beq_self_eq_true]
    · have hpos : 0 < (members.map (·.1)).count (some key) :=
        List.count_pos_iff.2 (List.mem_map_of_mem hmem)
      have hne : member.1 ≠ some key := by
        intro heq
        rw [if_pos (beq_iff_eq.2 heq)] at honce
        omega
      rw [beq_false_of_ne hne.symm]
      rw [if_neg (by simpa using hne)] at honce
      exact ih hmem honce

theorem mem_of_lookup {α β : Type} [BEq α] [LawfulBEq α] {l : List (α × β)} {a : α} {b : β}
    (h : l.lookup a = some b) : (a, b) ∈ l := by
  obtain ⟨l₁, l₂, rfl, -⟩ := List.lookup_eq_some_iff.1 h
  simp

/-! ## What suits a layout -/

theorem membersSuit_iff {layout : Layout} :
    MembersSuit layout members ↔ ∀ member ∈ members, Suits (layout.member member.1) member.2 := by
  induction members with
  | nil => exact iff_of_true trivial nofun
  | cons member members ih =>
    rw [List.forall_mem_cons, ← ih]
    rfl

theorem itemsSuit_any_iff {items : List Json} :
    ItemsSuit .any items ↔ ∀ v ∈ items, Suits .any v := by
  induction items with
  | nil => exact iff_of_true trivial nofun
  | cons v items ih =>
    rw [List.forall_mem_cons, ← ih]
    exact and_iff_right rfl

/-- An object suits a record if its known members suit their fields. -/
theorem WellKeyed.suits {fields : List (String × Layout)}
    (h : WellKeyed (fields.map (·.1)) members) (hany : Suits .any (.object members))
    (hknown : ∀ key value, members.lookup (some key) = some value →
      ∀ layout, fields.lookup key = some layout → Suits layout value) :
    Suits (.record fields) (.object members) := by
  refine membersSuit_iff.2 fun member hmember => ?_
  obtain ⟨key, value⟩ := member
  obtain ⟨name, rfl⟩ := Option.ne_none_iff_exists'.1 (h.texts _ hmember)
  show Suits ((fields.lookup name).getD .any) value
  cases hfield : fields.lookup name with
  | none => exact membersSuit_iff.1 hany _ hmember
  | some layout =>
    refine hknown name value (h.lookup_eq ?_ hmember) layout hfield
    exact List.mem_map.2 ⟨_, mem_of_lookup hfield, rfl⟩

/-- An array suits a record if its items suit the fields in their order. -/
theorem suits_items {fields : List (String × Layout)} {items : List Json}
    (h : List.Forall₂ (fun field v => Suits field.2 v) fields items) :
    Suits (.record fields) (.array items) := by
  show ItemsSuit (.record fields) items
  induction h with
  | nil => trivial
  | cons hitem _ ih => exact ⟨rfl, hitem, ih⟩

/-- A byte string of the length that is expected is not too long. -/
theorem IsBytes.suits {v : Json} {b : Bytes} (h : v.IsBytes b) : Suits (.bytes b.length) v := by
  rcases h with ⟨text, rfl, -⟩ | rfl
  · trivial
  · show ItemsSuit (.bytes b.length) (b.map _)
    induction b with
    | nil => trivial
    | cons byte b ih => exact ⟨rfl, trivial, ih⟩

theorem IsFixedBytes.suits {n : Nat} {v : Json} {b : FixedBytes n} (h : v.IsFixedBytes b) :
    Suits (.bytes n) v := by
  have hsuits := IsBytes.suits h
  rwa [b.length_eq] at hsuits

theorem IsListOf.suits {α : Type} {R : Json → α → Prop} {item : Layout} {v : Json} {as : List α}
    (h : v.IsListOf R as) (hitem : ∀ v a, R v a → Suits .any v → Suits item v)
    (hany : Suits .any v) : Suits (.list item) v := by
  obtain ⟨items, rfl, hitems⟩ := h
  have hall := itemsSuit_any_iff.1 hany
  refine suits_list fun v hv => ?_
  clear hany
  induction hitems with
  | nil => cases hv
  | cons hhead _ ih =>
    obtain ⟨hfirst, hrest⟩ := List.forall_mem_cons.1 hall
    rcases List.mem_cons.1 hv with rfl | hv
    · exact hitem _ _ hhead hfirst
    · exact ih hrest hv

end Json

/-! ## Access lists -/

namespace AccessList

open Json

/-- The values are those of the address and the storage keys of the item. -/
structure AreParts (address storageKeys : Json) (item : AccessListItem) : Prop where
  address : address.IsFixedBytes item.address
  storageKeys : storageKeys.IsListOf IsFixedBytes item.storageKeys

/-- The value denotes the item: an object with both parts, or the pair of them. -/
inductive IsItem : Json → AccessListItem → Prop
  | object {members : List (Literal × Json)} {address storageKeys : Json} {item : AccessListItem}
    (hkeys : WellKeyed ["address", "storageKeys"] members)
    (haddress : members.lookup (some "address") = some address)
    (hstorageKeys : members.lookup (some "storageKeys") = some storageKeys)
    (h : AreParts address storageKeys item) : IsItem (.object members) item
  | pair {address storageKeys : Json} {item : AccessListItem}
    (h : AreParts address storageKeys item) : IsItem (.array [address, storageKeys]) item

/-- The value denotes the list, item by item. -/
def IsList (v : Json) (list : AccessList) : Prop :=
  v.IsListOf IsItem list

theorem areParts_iff {address storageKeys : Json} {item : AccessListItem} :
    AreParts address storageKeys item ↔ address.fixedBytes? 20 = some item.address ∧
      storageKeys.list? (fixedBytes? 32) = some item.storageKeys := by
  rw [fixedBytes?_eq_some_iff, list?_eq_some_iff fun v key => fixedBytes?_eq_some_iff]
  exact ⟨fun h => ⟨h.1, h.2⟩, fun h => ⟨h.1, h.2⟩⟩

theorem itemOfJson?_eq_some_iff (v : Json) (item : AccessListItem) :
    itemOfJson? v = some item ↔ IsItem v item := by
  constructor
  · intro h
    unfold itemOfJson? at h
    split at h
    · rename_i members
      obtain ⟨parts, hparts, h⟩ := Option.bind_eq_some_iff.1 h
      have hkeys := wellKeyed_of_members? hparts
      obtain ⟨parts', hparts', hlookup⟩ := hkeys.exists_members
      obtain rfl := Option.some.inj (hparts.symm.trans hparts')
      rw [hlookup "address" (by simp), hlookup "storageKeys" (by simp)] at h
      obtain ⟨address, haddress, h⟩ := Option.bind_eq_some_iff.1 h
      obtain ⟨keys, hstorageKeys, h⟩ := Option.bind_eq_some_iff.1 h
      cases h
      obtain ⟨v, hv, haddress⟩ := Option.bind_eq_some_iff.1 haddress
      obtain ⟨w, hw, hstorageKeys⟩ := Option.bind_eq_some_iff.1 hstorageKeys
      exact .object hkeys hv hw (areParts_iff.2 ⟨haddress, hstorageKeys⟩)
    · obtain ⟨address, haddress, h⟩ := Option.bind_eq_some_iff.1 h
      obtain ⟨keys, hstorageKeys, h⟩ := Option.bind_eq_some_iff.1 h
      cases h
      exact .pair (areParts_iff.2 ⟨haddress, hstorageKeys⟩)
    · cases h
  · rintro (⟨hkeys, haddress, hstorageKeys, h⟩ | h)
    · obtain ⟨parts, hparts, hlookup⟩ := hkeys.exists_members
      obtain ⟨hread, hread'⟩ := areParts_iff.1 h
      simp only [itemOfJson?, hparts, hlookup "address" (by simp), hlookup "storageKeys" (by simp),
        haddress, hstorageKeys, required?, hread, hread', Option.bind_eq_bind, Option.bind_some]
      rfl
    · obtain ⟨hread, hread'⟩ := areParts_iff.1 h
      simp only [itemOfJson?, hread, hread', Option.bind_eq_bind, Option.bind_some]
      rfl

/-- **An access list is read from the values that denote it**, and from no other. -/
theorem ofJson?_eq_some_iff (v : Json) (list : AccessList) :
    ofJson? v = some list ↔ IsList v list :=
  list?_eq_some_iff itemOfJson?_eq_some_iff

theorem AreParts.suits {address storageKeys : Json} {item : AccessListItem}
    (h : AreParts address storageKeys item) (hany : Suits .any storageKeys) :
    Suits (.bytes 20) address ∧ Suits (.list (.bytes 32)) storageKeys :=
  ⟨h.address.suits, h.storageKeys.suits (fun _ _ hkey _ => hkey.suits) hany⟩

theorem IsItem.suits {v : Json} {item : AccessListItem} (h : IsItem v item)
    (hany : Suits .any v) :
    Suits (.record [("address", .bytes 20), ("storageKeys", .list (.bytes 32))]) v := by
  cases h with
  | @object members address storageKeys _ hkeys haddress hstorageKeys h =>
    have hparts := h.suits
      (membersSuit_iff.1 hany _ (mem_of_lookup hstorageKeys))
    refine WellKeyed.suits hkeys hany fun key value hvalue layout hlayout => ?_
    rw [List.lookup_cons, List.lookup_cons] at hlayout
    split at hlayout
    · rename_i hkey
      obtain rfl := eq_of_beq hkey
      cases hlayout
      obtain rfl := Option.some.inj (haddress.symm.trans hvalue)
      exact hparts.1
    · split at hlayout
      · rename_i hkey
        obtain rfl := eq_of_beq hkey
        cases hlayout
        obtain rfl := Option.some.inj (hstorageKeys.symm.trans hvalue)
        exact hparts.2
      · cases hlayout
  | pair h =>
    have hparts := h.suits (itemsSuit_any_iff.1 hany _ (by simp))
    exact suits_items (.cons hparts.1 (.cons hparts.2 .nil))

/-- A value that denotes a list suits the layout of one. -/
theorem IsList.suits {v : Json} {list : AccessList} (h : IsList v list) (hany : Suits .any v) :
    Suits layout v :=
  IsListOf.suits h (fun _ _ hitem hany => hitem.suits hany) hany

end AccessList
end TxForge
