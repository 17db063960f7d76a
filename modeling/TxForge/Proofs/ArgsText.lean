import TxForge.Args.Json
import TxForge.Proofs.JsonParts

/-!
# Args as text

Args survive being written and read back, whatever is set in them: numbers of any size, inputs of
any length, and an access list that is empty as well as one that is not there.

* `TxArgs.ofJson?_toJson` — the fields are found under their keys and read as what they were.
* `TxArgs.ofText?_toText` — and so they are behind the text.
-/

set_option autoImplicit false

namespace TxForge
namespace TxArgs

/-! ## Fields -/

theorem Field.mem_all (field : Field) : field ∈ all := by
  cases field <;> decide

/-- Different fields have different keys. -/
theorem Field.nodup_keys : (all.map key).Nodup := by
  decide

/-- The fields are read as what they were. -/
theorem ofParts?_fieldJson (args : TxArgs) :
    (ofParts? fun field => some (args.fieldJson field)) = some args := by
  have huint {width : Nat} (part : Option (BitVec width)) :
      Json.optional? (Json.uint? width) (some (.ofOption (fun n => .ofNat n.toNat) part)) =
        some part :=
    Json.optional?_ofOption Json.uint?_ofNat rfl part
  have hrecipient := Json.optional?_ofOption Json.fixedBytes?_hexJson rfl args.recipient
  have haccessList := Json.optional?_ofOption AccessList.ofJson?_toJson rfl args.accessList
  simp only [ofParts?, fieldJson, huint, hrecipient, haccessList, Json.withDefault?,
    Json.bytes?_encode, Json.quantity?_quantity, Option.bind_eq_bind, Option.bind_some]
  rfl

/-- **The fields of args are found under their keys and read as what they were.** -/
theorem ofJson?_toJson (args : TxArgs) : ofJson? args.toJson = some args := by
  have hkeys : ((Field.all.map fun field => (field.key, args.fieldJson field)).map (·.1)) =
      Field.all.map Field.key :=
    List.map_map
  have hmembers := Json.members?_record (Field.all.map Field.key)
    (Field.all.map fun field => (field.key, args.fieldJson field))
    (fun member hmember => hkeys ▸ List.mem_map_of_mem hmember) (hkeys ▸ Field.nodup_keys)
  have hparts : (fun field : Field =>
      (Field.all.map fun field => (field.key, args.fieldJson field)).lookup field.key) =
        fun field => some (args.fieldJson field) :=
    funext fun field => Json.lookup_record field.mem_all Field.nodup_keys
  rw [toJson, Json.record, ofJson?, hmembers, Option.bind_eq_bind, Option.bind_some, hparts]
  exact ofParts?_fieldJson args

/-! ## The text -/

theorem member_layout (field : Field) : layout.member (some field.key) = field.layout := by
  cases field <;> rfl

theorem suits_fieldJson (args : TxArgs) (field : Field) :
    Json.Suits field.layout (args.fieldJson field) := by
  cases field with
  | input => trivial
  | value => trivial
  | accessList => exact Json.suits_ofOption AccessList.suits_toJson args.accessList
  | _ =>
    refine Json.suits_ofOption (fun _ => ?_) _
    trivial

theorem suits_toJson (args : TxArgs) : Json.Suits layout args.toJson := by
  refine Json.suits_record fun member hmember => ?_
  obtain ⟨field, -, rfl⟩ := List.mem_map.1 hmember
  rw [member_layout]
  exact args.suits_fieldJson field

/-- **Args read back from their text are what they were**, with every field set or not as it was. -/
theorem ofText?_toText (args : TxArgs) : ofText? args.toText = some args := by
  rw [ofText?, toText, Json.readAs?_render args.suits_toJson, Option.bind_some]
  exact args.ofJson?_toJson

end TxArgs
end TxForge
