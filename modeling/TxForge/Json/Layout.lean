import TxForge.Json

/-!
# Layouts

What a reader knows about a value before it is read: where in it byte strings of a fixed length
are expected.  Everything else is left open, and `Layout.any` leaves open everything.

The layout of an array speaks of the items still to come, so that it is taken along from item to
item.
-/

set_option autoImplicit false

namespace TxForge
namespace Json

/-- Where byte strings of a fixed length are expected in a value. -/
inductive Layout where
  /-- Nothing is known. -/
  | any
  /-- The value is a byte string of this length, if it is an array. -/
  | bytes (length : Nat)
  /-- The value is a list, if it is an array, and its items have this layout. -/
  | list (item : Layout)
  /-- The value is a record: an object with these members, or an array of their values in this
  order. -/
  | record (fields : List (String × Layout))

namespace Layout

/-- The layout of the first item of an array. -/
def first : Layout → Layout
  | .list item => item
  | .record ((_, field) :: _) => field
  | _ => .any

/-- The layout of the items behind the first. -/
def rest : Layout → Layout
  | .any => .any
  | .bytes length => .bytes (length - 1)
  | .list item => .list item
  | .record fields => .record fields.tail

/-- The array has all the bytes that it may have. -/
def isFull : Layout → Bool
  | .bytes 0 => true
  | _ => false

/-- The layout of a member of an object. -/
def member (key : Literal) : Layout → Layout
  | .record fields => (key.bind fun name => fields.lookup name).getD .any
  | _ => .any

end Layout
end Json
end TxForge
