/-!
# JSON values

A JSON value keeps what its text says about content and nothing about layout.  Three things that
many value types lose are kept, because readers of typed data need them:

* the members of an object stay in order, repeated keys included;
* an unsigned integer literal is a natural number of any size, and every other number keeps the
  spelling of its literal, so that no reader can round it by accident;
* a string literal whose escapes leave a surrogate without a partner denotes no text at all.

`Json.render` writes a value on one line without blanks.
-/

set_option autoImplicit false

namespace TxForge

/-- A number literal. -/
inductive Json.Number where
  /-- An unsigned integer literal: digits without a leading zero. -/
  | natural (n : Nat)
  /-- A literal with a sign, a fraction or an exponent, as it is spelled. -/
  | spelled (text : String)
deriving DecidableEq

/-- What a string literal denotes: a text, or nothing if an escape leaves half of a surrogate
pair alone. -/
abbrev Json.Literal := Option String

/-- A JSON value. -/
inductive Json where
  | null
  | bool (b : Bool)
  | number (n : Json.Number)
  | string (s : Json.Literal)
  | array (items : List Json)
  | object (members : List (Json.Literal × Json))
deriving Inhabited

namespace Json

/-- The string value of a text. -/
abbrev ofText (s : String) : Json :=
  .string (some s)

/-- The number value of a natural number. -/
abbrev ofNat (n : Nat) : Json :=
  .number (.natural n)

/-- The value of an optional part: `null` where it is absent. -/
def ofOption {α : Type} (f : α → Json) : Option α → Json
  | none => .null
  | some a => f a

/-- An object whose keys are texts. -/
def record (members : List (String × Json)) : Json :=
  .object (members.map fun (key, value) => (some key, value))

/-! ## Writing -/

/-- A character inside a string literal.  Quote, backslash and the control characters are
escaped, the latter by their short form where they have one. -/
def escaped (c : Char) : List Char :=
  if c = '"' then ['\\', '"']
  else if c = '\\' then ['\\', '\\']
  else if c = '\n' then ['\\', 'n']
  else if c = '\r' then ['\\', 'r']
  else if c = '\t' then ['\\', 't']
  else if c = '\x08' then ['\\', 'b']
  else if c = '\x0c' then ['\\', 'f']
  else if c.toNat < 32 then
    ['\\', 'u', '0', '0', Nat.digitChar (c.toNat / 16), Nat.digitChar (c.toNat % 16)]
  else [c]

/-- A string literal with its quotes. -/
def Literal.chars : Literal → List Char
  | some s => '"' :: (s.toList.flatMap escaped ++ ['"'])
  | none => ['"', '\\', 'u', 'd', '8', '0', '0', '"']

/-- A number literal. -/
def Number.chars : Number → List Char
  | .natural n => Nat.toDigits 10 n
  | .spelled text => text.toList

mutual

/-- The characters of a value's text. -/
def chars : Json → List Char
  | .null => ['n', 'u', 'l', 'l']
  | .bool true => ['t', 'r', 'u', 'e']
  | .bool false => ['f', 'a', 'l', 's', 'e']
  | .number n => n.chars
  | .string s => s.chars
  | .array [] => ['[', ']']
  | .array (item :: items) => '[' :: (item.chars ++ charsOfItems items)
  | .object [] => ['\x7b', '\x7d']
  | .object ((key, value) :: members) =>
    '\x7b' :: (key.chars ++ ':' :: (value.chars ++ charsOfMembers members))

/-- The items of an array behind the first, and its closing bracket. -/
def charsOfItems : List Json → List Char
  | [] => [']']
  | item :: items => ',' :: (item.chars ++ charsOfItems items)

/-- The members of an object behind the first, and its closing brace. -/
def charsOfMembers : List (Literal × Json) → List Char
  | [] => ['\x7d']
  | (key, value) :: members =>
    ',' :: (key.chars ++ ':' :: (value.chars ++ charsOfMembers members))

end

/-- The text of a value, on one line and without blanks. -/
def render (v : Json) : String :=
  String.ofList v.chars

end Json
end TxForge
