import Mathlib.Data.List.Nodup
import TxForge.AccessList
import TxForge.Json.Decode
import TxForge.Proofs.JsonText

/-!
# Reading typed parts back

What is written of a number, of bytes or of an access list is read as what it was, and so is an
optional part, be it set or not.  Records are read by looking their parts up, so it is enough that
every part is found under its key.

* `Quantity.parse?_quantity`, `Json.uint?_ofNat`, `Json.fixedBytes?_hexJson` and
  `AccessList.ofJson?_toJson` — one law for each kind of part.
* `Json.optional?_ofOption` — the law lifted to parts that may be absent.
* `Json.members?_record` and `Json.lookup_record` — the parts of a record are found.
* `Json.suits_record`, `AccessList.suits_toJson` — what is written suits its layout.
-/

set_option autoImplicit false

namespace TxForge

/-! ## Quantities -/

namespace Quantity

theorem readDigits?_append (radix : Nat) (text text' : List Char) (n : Nat) :
    readDigits? radix (text ++ text') n =
      (readDigits? radix text n).bind fun m => readDigits? radix text' m := by
  induction text generalizing n with
  | nil => rfl
  | cons c text ih =>
    rw [List.cons_append, readDigits?, readDigits?]
    split
    · exact ih n
    · split
      · split
        · exact ih _
        · rfl
      · rfl

theorem readDigits?_digitChar {d n : Nat} (h : d < 16) :
    readDigits? 16 [d.digitChar] n = some (16 * n + d) := by
  have hdigit : ∀ d < 16, d.digitChar ≠ '_' ∧ digitValue? d.digitChar = some d := by decide
  obtain ⟨hne, hvalue⟩ := hdigit d h
  rw [readDigits?, if_neg hne, hvalue]
  simp only [if_pos h]
  rfl

/-- The hexadecimal digits of a number denote it. -/
theorem readDigits?_toDigits (n : Nat) : readDigits? 16 (Nat.toDigits 16 n) 0 = some n := by
  induction n using Nat.strongRecOn with
  | ind n ih =>
    rw [Nat.toDigits_eq_if (by decide)]
    split
    · rename_i hn
      simpa using readDigits?_digitChar (n := 0) hn
    · rw [readDigits?_append, ih (n / 16) (by omega), Option.bind_some,
        readDigits?_digitChar (Nat.mod_lt n (by decide)), Nat.div_add_mod]

/-- A quantity that was written is read exactly. -/
theorem parse?_quantity {width : Nat} (v : BitVec width) :
    parse? width (Hex.quantity v.toNat) = some v := by
  have htoNat : toNat? (Hex.quantity v.toNat).toList = some v.toNat := by
    rw [Hex.quantity, String.toList_ofList]
    exact readDigits?_toDigits v.toNat
  rw [parse?, htoNat]
  exact bounded?_eq_some_iff.2 rfl

end Quantity

namespace Json

/-! ## Single values -/

theorem uint?_ofNat {width : Nat} (v : BitVec width) : (ofNat v.toNat).uint? width = some v :=
  bounded?_eq_some_iff.2 rfl

theorem quantity?_quantity {width : Nat} (v : BitVec width) :
    (ofText (Hex.quantity v.toNat)).quantity? width = some v :=
  Quantity.parse?_quantity v

theorem bytes?_encode (b : Bytes) : (ofText (Hex.encode b)).bytes? = some b :=
  Hex.decode?_encode b

theorem fixedBytes?_hexJson {n : Nat} (b : FixedBytes n) :
    (AccessList.hexJson b).fixedBytes? n = some b := by
  rw [fixedBytes?, AccessList.hexJson, FixedBytes.hex, bytes?_encode, Option.bind_some,
    FixedBytes.ofBytes?_toBytes]

/-- A law of items is one of lists. -/
theorem list?_map {α : Type} {f : Json → Option α} {g : α → Json} (h : ∀ a, f (g a) = some a)
    (as : List α) : (array (as.map g)).list? f = some as := by
  have hpure : f ∘ g = fun a => pure a := funext h
  rw [list?, List.mapM_map, hpure, List.mapM_pure, List.map_id']
  rfl

/-! ## Parts of a record -/

/-- A law of a part that is there is one of a part that may be absent, if the reader of the part
refuses `null`. -/
theorem optional?_ofOption {α : Type} {f : Json → Option α} {g : α → Json}
    (h : ∀ a, f (g a) = some a) (hnull : f .null = none) (part : Option α) :
    optional? f (some (ofOption g part)) = some part := by
  cases part with
  | none => rfl
  | some a =>
    have hpart := h a
    rw [ofOption]
    generalize g a = v at hpart ⊢
    cases v with
    | null =>
      rw [hnull] at hpart
      cases hpart
    | _ => exact congrArg (Option.map some) hpart

/-- Of a record nothing is skipped if all its keys are known, and nothing is refused if they
differ. -/
theorem members?_record (known : List String) (members : List (String × Json))
    (hknown : ∀ member ∈ members, member.1 ∈ known) (hnodup : (members.map (·.1)).Nodup) :
    members? known (members.map fun (key, value) => (some key, value)) = some members := by
  have hkept : members.filter (fun (key, _) => known.contains key) = members :=
    List.filter_eq_self.2 fun member hmember => by simpa using hknown member hmember
  have hnamed : (members.map fun (key, value) => (some key, value)).mapM
      (fun (key, value) => key.map (·, value)) = some members := by
    rw [List.mapM_map]
    exact List.mapM_pure.trans (congrArg some (List.map_id' members))
  rw [members?, hnamed, Option.bind_eq_bind, Option.bind_some, hkept, if_pos hnodup]

/-- Every part of a record is found under its key. -/
theorem lookup_record {α : Type} {key : α → String} {value : α → Json} {fields : List α} {a : α}
    (ha : a ∈ fields) (hnodup : (fields.map key).Nodup) :
    (fields.map fun field => (key field, value field)).lookup (key a) = some (value a) := by
  induction fields with
  | nil => cases ha
  | cons field fields ih =>
    rw [List.map_cons, List.nodup_cons] at hnodup
    rw [List.map_cons, List.lookup_cons]
    rcases List.mem_cons.1 ha with rfl | ha
    · rw [beq_self_eq_true]
    · have hne : key a ≠ key field := fun h => hnodup.1 (h ▸ List.mem_map_of_mem ha)
      rw [beq_false_of_ne hne]
      exact ih ha hnodup.2

/-! ## What suits a layout -/

theorem suits_ofOption {α : Type} {layout : Layout} {f : α → Json} (h : ∀ a, Suits layout (f a))
    (part : Option α) : Suits layout (ofOption f part) := by
  cases part with
  | none => trivial
  | some a => exact h a

/-- A list has room for any number of items. -/
theorem suits_list {item : Layout} {items : List Json} (h : ∀ v ∈ items, Suits item v) :
    Suits (.list item) (.array items) := by
  show ItemsSuit (.list item) items
  induction items with
  | nil => trivial
  | cons v items ih => exact ⟨rfl, h v (by simp), ih fun v' hv' => h v' (by simp [hv'])⟩

theorem suits_record {layout : Layout} {members : List (String × Json)}
    (h : ∀ member ∈ members, Suits (layout.member (some member.1)) member.2) :
    Suits layout (record members) := by
  show MembersSuit layout (members.map fun (key, value) => (some key, value))
  induction members with
  | nil => trivial
  | cons member members ih =>
    exact ⟨h member (by simp), ih fun member' hmember' => h member' (by simp [hmember'])⟩

end Json

/-! ## Access lists -/

namespace AccessList

open Json

theorem itemOfJson?_itemJson (item : AccessListItem) : itemOfJson? (itemJson item) = some item := by
  have hmembers := members?_record ["address", "storageKeys"]
    [("address", hexJson item.address), ("storageKeys", .array (item.storageKeys.map hexJson))]
    (by simp) (by simp)
  simp only [itemJson, record, itemOfJson?, hmembers, Option.bind_eq_bind, Option.bind_some]
  have haddress := fixedBytes?_hexJson item.address
  have hkeys := list?_map fixedBytes?_hexJson item.storageKeys
  simp [List.lookup_cons, required?, haddress, hkeys]

/-- An access list that was written is read back. -/
theorem ofJson?_toJson (list : AccessList) : ofJson? list.toJson = some list :=
  list?_map itemOfJson?_itemJson list

theorem suits_itemJson (item : AccessListItem) :
    Suits (.record [("address", .bytes 20), ("storageKeys", .list (.bytes 32))])
      (itemJson item) := by
  refine suits_record fun member hmember => ?_
  simp only [List.mem_cons, List.not_mem_nil, or_false] at hmember
  rcases hmember with rfl | rfl
  · trivial
  · refine suits_list fun v hv => ?_
    obtain ⟨key, -, rfl⟩ := List.mem_map.1 hv
    trivial

theorem suits_toJson (list : AccessList) : Suits layout list.toJson := by
  refine suits_list fun v hv => ?_
  obtain ⟨item, -, rfl⟩ := List.mem_map.1 hv
  exact suits_itemJson item

end AccessList
end TxForge
