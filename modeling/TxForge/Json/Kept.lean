import TxForge.Json.Embedded
import TxForge.Json.Shortest

/-!
# Kept values

A value that is kept for later, and not only read for what is asked of it, loses what its text said
about layout and order:

* embedded texts give way to their values (see `TxForge.Json.Embedded`);
* integers of 64 bits stay what they are, and every other number becomes a double, spelled in the
  shortest way;
* the members of an object are sorted by their keys, and of members with the same key the last is
  kept.
-/

set_option autoImplicit false

namespace TxForge
namespace Json

/-! ## Numbers -/

/-- The spelling of a double with the value of a literal, which has to be in range. -/
def Number.doubleText (text : List Char) : List Char :=
  match Number.toDouble? text with
  | some x => x.text
  | none => text

/-- The number as it is kept.  Minus zero is no integer. -/
def Number.kept : Number → Number
  | .natural n =>
    if n < capacity 64 then .natural n
    else .spelled (String.ofList (doubleText (Nat.toDigits 10 n)))
  | .spelled text =>
    match text.toList with
    | '-' :: size =>
      if size.all Char.isDigit ∧ 0 < ofDigits size ∧ ofDigits size ≤ capacity 63 then .spelled text
      else .spelled (String.ofList ('-' :: doubleText size))
    | size => .spelled (String.ofList (doubleText size))

/-! ## Objects -/

/-- Puts a member in its place among sorted ones, where it replaces one with the same key. -/
def putMember (key : String) (value : Json) : List (String × Json) → List (String × Json)
  | [] => [(key, value)]
  | (key', value') :: members =>
    if key < key' then (key, value) :: (key', value') :: members
    else if key = key' then (key, value) :: members
    else (key', value') :: putMember key value members

mutual

/-- The value with its numbers and objects as they are kept. -/
def canonical : Json → Json
  | .number n => .number n.kept
  | .array items => .array (canonicalItems items)
  | .object members => .record (canonicalMembers members [])
  | v => v

/-- The items with their numbers and objects as they are kept. -/
def canonicalItems : List Json → List Json
  | [] => []
  | item :: items => item.canonical :: canonicalItems items

/-- The members sorted in among those that are `done`.  A key that denotes no text is left out. -/
def canonicalMembers : List (Literal × Json) → List (String × Json) → List (String × Json)
  | [], done => done
  | (some key, value) :: members, done =>
    canonicalMembers members (putMember key value.canonical done)
  | (none, _) :: members, done => canonicalMembers members done

end

/-- The value as it is kept.  There is none if an embedded text cannot be read. -/
def keep? (v : Json) : Option Json :=
  (v.expand? (readEmbedded? v.chars.length)).map canonical

end Json
end TxForge
