import TxForge.Json.Double

/-!
# Limits on JSON values

A value that is kept for later, and not only skipped, has to be one that every reader of JSON can
hold: nested at most 127 deep, with text in all its strings and keys, and with numbers in the
range of a double.
-/

set_option autoImplicit false

namespace TxForge
namespace Json

/-- How many containers may be open at once. -/
def maxDepth : Nat := 127

/-- The number is in the range of a double, as doubles are read. -/
def Number.isInRange : Number → Bool
  | .natural n => isDouble (Nat.toDigits 10 n)
  | .spelled text => isDouble text.toList

mutual

/-- The value keeps the limits with at most `depth` containers nested in each other. -/
def isWithin (depth : Nat) : Json → Bool
  | .null | .bool _ => true
  | .number n => n.isInRange
  | .string s => s.isSome
  | .array items =>
    match depth with
    | 0 => false
    | depth + 1 => areItemsWithin depth items
  | .object members =>
    match depth with
    | 0 => false
    | depth + 1 => areMembersWithin depth members

/-- Every item keeps the limits. -/
def areItemsWithin (depth : Nat) : List Json → Bool
  | [] => true
  | item :: items => item.isWithin depth && areItemsWithin depth items

/-- Every member keeps the limits, and its key denotes a text. -/
def areMembersWithin (depth : Nat) : List (Literal × Json) → Bool
  | [] => true
  | (key, value) :: members =>
    key.isSome && value.isWithin depth && areMembersWithin depth members

end

end Json
end TxForge
