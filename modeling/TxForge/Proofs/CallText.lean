import TxForge.Chain.CallRequest
import TxForge.Proofs.JsonParts

/-!
# Call requests as text

A request survives being written and read back, whichever of its parts are present.  An absent part
leaves no trace in the text, so nothing has to be told apart from `null`, and a list of no items is
still a list.

* `CallRequest.keys_parts_sublist` — what is written stands in one order, each key at most once.
* `CallRequest.ofJson?_toJson` — the parts are found under their keys and read as what they were.
* `CallRequest.ofText_toText` — and so they are behind the text.
-/

set_option autoImplicit false

namespace TxForge

namespace Json

/-- A law of a part that is there is one of a part that is left out where it is absent, if the
reader of the part refuses `null`. -/
theorem optional?_map {α : Type} {f : Json → Option α} {g : α → Json}
    (h : ∀ a, f (g a) = some a) (hnull : f .null = none) (part : Option α) :
    optional? f (part.map g) = some part := by
  cases part with
  | none => rfl
  | some a => exact optional?_ofOption h hnull (some a)

end Json

namespace CallRequest

variable {α : Type}

/-! ## Members -/

theorem keys_member_sublist (key : String) (f : α → Json) (part : Option α) :
    ((member key f part).map (·.1)).Sublist [key] := by
  cases part <;> simp [member]

theorem lookup_member (key key' : String) (f : α → Json) (part : Option α) :
    (member key f part).lookup key' = if key' = key then part.map f else none := by
  cases part with
  | none => simp [member]
  | some a =>
    by_cases h : key' = key
    · simp [member, h]
    · have hne : (key' == key) = false := beq_false_of_ne h
      simp [member, List.lookup_cons, h, hne]

theorem mem_member {key : String} {f : α → Json} {part : Option α} {written : String × Json}
    (h : written ∈ member key f part) : ∃ a, part = some a ∧ written = (key, f a) := by
  cases part with
  | none => simp [member] at h
  | some a => exact ⟨a, rfl, List.mem_singleton.1 h⟩

/-- The members stand in one order, whichever of them are written. -/
theorem keys_parts_sublist (r : CallRequest) : (r.parts.map (·.1)).Sublist keys := by
  simp only [parts, List.map_append]
  have h : keys = ["from"] ++ ["to"] ++ ["gasPrice"] ++ ["gas"] ++ ["value"] ++ ["input"] ++
      ["data"] ++ ["nonce"] ++ ["accessList"] := rfl
  rw [h]
  repeat' apply List.Sublist.append
  all_goals exact keys_member_sublist _ _ _

theorem nodup_keys_parts (r : CallRequest) : (r.parts.map (·.1)).Nodup :=
  r.keys_parts_sublist.nodup (by decide)

theorem key_mem_keys {r : CallRequest} {written : String × Json} (h : written ∈ r.parts) :
    written.1 ∈ keys :=
  r.keys_parts_sublist.subset (List.mem_map_of_mem h)

/-- No member of a request is one that is only held and dropped. -/
theorem holdsUnknown_parts (r : CallRequest) :
    holdsUnknown (r.parts.map fun (key, value) => (some key, value)) = true := by
  rw [holdsUnknown, List.all_map, List.all_eq_true]
  intro written hwritten
  have hkey : written.1 ∈ keys := key_mem_keys hwritten
  simp [Function.comp, hkey]

/-! ## Reading -/

/-- **The parts of a request are found under their keys and read as what they were.** -/
theorem ofJson?_toJson (r : CallRequest) : ofJson? r.toJson = some r := by
  have hmembers := Json.members?_record keys r.parts (fun _ => key_mem_keys) r.nodup_keys_parts
  have haddress := Json.optional?_map (Json.fixedBytes?_hexJson (n := 20)) rfl
  have hquantity {width : Nat} (part : Option (BitVec width)) :
      Json.optional? (Json.quantity? width) (part.map quantityJson) = some part :=
    Json.optional?_map Json.quantity?_quantity rfl part
  have hbytes := Json.optional?_map (g := bytesJson) Json.bytes?_encode rfl
  have hlist := Json.optional?_map AccessList.ofJson?_toJson rfl
  rw [toJson, Json.record, ofJson?, hmembers, Option.bind_eq_bind, Option.bind_some,
    holdsUnknown_parts]
  simp only [parts, List.lookup_append, lookup_member]
  simp [haddress, hquantity, hbytes, hlist]

/-! ## The text -/

theorem suits_toJson (r : CallRequest) : Json.Suits layout r.toJson := by
  refine Json.suits_record fun written hwritten => ?_
  simp only [parts, List.mem_append] at hwritten
  rcases hwritten with (((((((h | h) | h) | h) | h) | h) | h) | h) | h
  case inr =>
    obtain ⟨list, -, rfl⟩ := mem_member h
    exact AccessList.suits_toJson list
  all_goals
    obtain ⟨part, -, rfl⟩ := mem_member h
    trivial

/-- The text of a request stands for the members that were written, and no others. -/
theorem readAs?_toText (r : CallRequest) :
    Json.readAs? layout r.toText = some (.record r.parts) :=
  Json.readAs?_render r.suits_toJson

/-- **A request reads back from its text as what it was**, whatever a failure to read it would have
been called. -/
theorem ofText_toText (r : CallRequest) (message : String) : ofText r.toText message = .ok r := by
  have hread : (Json.readAs? layout r.toText).bind ofJson? = some r := by
    rw [readAs?_toText, Option.bind_some]
    exact r.ofJson?_toJson
  rw [ofText, hread]

end CallRequest
end TxForge
