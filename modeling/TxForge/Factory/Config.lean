import TxForge.Json.Embedded

/-!
# Configuration of a factory

One parameter, the cap on the gas of estimations.  A configuration is read from a JSON object in
which it may be a number or a text that holds one; of repeated members the last counts.  The values
of the members may be embedded as texts.
-/

set_option autoImplicit false

namespace TxForge

/-- The settings of a factory. -/
structure FactoryConfig where
  /-- The most gas that an estimation may use. -/
  gasCap : Gas := 25000000
deriving DecidableEq

/-- Why a configuration cannot be read. -/
inductive ConfigError where
  /-- The text is no JSON object. -/
  | notAnObject
  /-- The value of a parameter is not of its type. -/
  | invalidParameter (key : String)
deriving DecidableEq

namespace FactoryConfig

/-- The key of the gas cap. -/
def gasCapKey : String := "gas_cap"

/-- Reads a number from text: digits, with or without a plus sign. -/
def decimal? (text : String) : Option Gas :=
  let digits :=
    match text.toList with
    | '+' :: rest => rest
    | all => all
  if digits ≠ [] ∧ digits.all Char.isDigit then bounded? 64 (Json.Number.ofDigits digits) else none

/-- Reads the gas cap. -/
def gasCapOf? : Json → Option Gas
  | .number (.natural n) => bounded? 64 n
  | .string (some s) => decimal? s
  | _ => none

/-- The members of the object that a text holds, with embedded texts replaced.  The object as a
whole is no embedded text, whatever its first key is. -/
def members? (text : String) : Option (List (Json.Literal × Json)) :=
  match Json.parse? text with
  | some (.object members) =>
    if (Json.object members).isWithin Json.maxDepth then
      Json.expandMembers? (Json.readEmbedded? text.length) members
    else none
  | _ => none

/-- Reads a configuration from JSON text. -/
def ofText (text : String) : Except ConfigError FactoryConfig :=
  match members? text with
  | none => .error .notAnObject
  | some members =>
    match members.reverse.lookup (some gasCapKey) with
    | none => .ok {}
    | some v =>
      match gasCapOf? v with
      | some gasCap => .ok { gasCap }
      | none => .error (.invalidParameter gasCapKey)

end FactoryConfig
end TxForge
