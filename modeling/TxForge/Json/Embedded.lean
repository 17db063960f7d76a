import TxForge.Json.Limits
import TxForge.Json.Reader

/-!
# Embedded texts

A value may be given by its JSON text: an object whose first key is `textKey` stands for the value
that the string under this key is the text of.  Such an object has no other member, and one that
does not hold a readable text stands for nothing.  Where the key is not the first one, it is a key
like any other.

* `Json.expand?` puts the values in the place of their texts.
* `Json.readEmbedded?` reads such a text.  It has to keep the limits of `TxForge.Json.Limits` by
  itself, and it may embed texts in its turn.

A text is longer than any text embedded in it, so the length of a text bounds how deep texts are
nested in it.
-/

set_option autoImplicit false

namespace TxForge
namespace Json

/-- The key of an embedded text. -/
def textKey : String := "$serde_json::private::RawValue"

/-- The text that an object with these members has embedded, if it is of this kind at all.  There
is no text where its place is taken by something else. -/
def embedded? : List (Literal × Json) → Option Literal
  | (key, value) :: members =>
    if key = some textKey then
      match value, members with
      | .string text, [] => some text
      | _, _ => some none
    else none
  | [] => none

mutual

/-- The value with each embedded text replaced by what `read?` reads in it. -/
def expand? (read? : String → Option Json) : Json → Option Json
  | .array items => (expandItems? read? items).map .array
  | .object members =>
    match embedded? members with
    | some text => text.bind read?
    | none => (expandMembers? read? members).map .object
  | v => some v

/-- The items with embedded texts replaced. -/
def expandItems? (read? : String → Option Json) : List Json → Option (List Json)
  | [] => some []
  | item :: items => do
    let item' ← item.expand? read?
    let items' ← expandItems? read? items
    return item' :: items'

/-- The members with embedded texts replaced in their values. -/
def expandMembers? (read? : String → Option Json) :
    List (Literal × Json) → Option (List (Literal × Json))
  | [] => some []
  | (key, value) :: members => do
    let value' ← value.expand? read?
    let members' ← expandMembers? read? members
    return (key, value') :: members'

end

/-- Reads an embedded text in which fewer than `depth` texts are nested. -/
def readEmbedded? : Nat → String → Option Json
  | 0, _ => none
  | depth + 1, text => do
    let v ← parse? text
    if v.isWithin maxDepth then v.expand? (readEmbedded? depth) else none

end Json
end TxForge
