import TxForge.Json.Layout
import TxForge.Json.Surplus

/-!
# Reading JSON text

The reader is a pushdown automaton that takes one character at a time: `Reader.step` says what a
character does, and `Json.readAs?` folds it over a text.  So a text is read in one pass with a stack
of its own, values may nest to any depth, and what is read of `a ++ b` is what is read of `b` from
where `a` ends.

The reader is told the layout of the value.  It takes the layout along to the places where byte
strings of a fixed length are expected, and is lenient there about one surplus item.

`Place` is where the reader stands in the grammar between two tokens.
-/

set_option autoImplicit false

namespace TxForge
namespace Json

/-- Blank characters may stand between any two tokens. -/
def isBlank (c : Char) : Bool :=
  c == ' ' || c == '\t' || c == '\n' || c == '\r'

/-! ## Places in the grammar -/

/-- A container that is still open, with what it holds so far, last first.  The layout of an array
is that of the items behind the one at hand. -/
inductive Frame where
  | items (rest : Layout) (done : List Json)
  | member (layout : Layout) (done : List (Literal × Json)) (key : Literal)

/-- What the reader expects next, inside the open containers, innermost first. -/
inductive Place where
  /-- A value. -/
  | value (layout : Layout) (stack : List Frame)
  /-- The first item of an array, or its end. -/
  | firstItem (layout : Layout) (stack : List Frame)
  /-- A comma or the end of an array. -/
  | afterItem (rest : Layout) (done : List Json) (stack : List Frame)
  /-- A surplus item or the end of an array, which has a byte and a comma behind it. -/
  | surplus (done : List Json) (stack : List Frame)
  /-- The end of an array with a surplus item. -/
  | closing (done : List Json) (stack : List Frame)
  /-- The first key of an object, or its end. -/
  | firstKey (layout : Layout) (stack : List Frame)
  /-- A key. -/
  | key (layout : Layout) (done : List (Literal × Json)) (stack : List Frame)
  /-- The colon behind a key. -/
  | colon (layout : Layout) (done : List (Literal × Json)) (key : Literal) (stack : List Frame)
  /-- A comma or the end of an object. -/
  | afterMember (layout : Layout) (done : List (Literal × Json)) (stack : List Frame)
  /-- Nothing but blanks: the whole value has been read. -/
  | finished (v : Json)

namespace Place

/-- The place behind a complete value. -/
def behind (v : Json) : List Frame → Place
  | [] => .finished v
  | .items rest done :: stack => .afterItem rest (v :: done) stack
  | .member layout done name :: stack => .afterMember layout ((name, v) :: done) stack

/-- The place behind an array.  A surplus item is no part of it. -/
def behindArray (done : List Json) (stack : List Frame) : Place :=
  behind (.array done.reverse) stack

/-- A value that is one token. -/
def scalar (v : Json) : Place → Option Place
  | .value _ stack => some (behind v stack)
  | .firstItem layout stack => some (behind v (.items layout.rest [] :: stack))
  | _ => none

/-- A string literal: a value or a key. -/
def text (s : Literal) : Place → Option Place
  | .firstKey layout stack => some (.colon layout [] s stack)
  | .key layout done stack => some (.colon layout done s stack)
  | place => scalar (.string s) place

/-- The place behind the comma after an item. -/
def next (rest : Layout) (done : List Json) (stack : List Frame) : Place :=
  if rest.isFull then .surplus done stack else .value rest.first (.items rest.rest done :: stack)

/-- A bracket, brace, comma or colon. -/
def mark (c : Char) : Place → Option Place
  | .value layout stack =>
    if c = '[' then some (.firstItem layout stack)
    else if c = '\x7b' then some (.firstKey layout stack)
    else none
  | .firstItem layout stack =>
    if c = '[' then some (.firstItem layout.first (.items layout.rest [] :: stack))
    else if c = '\x7b' then some (.firstKey layout.first (.items layout.rest [] :: stack))
    else if c = ']' then some (behindArray [] stack)
    else none
  | .afterItem rest done stack =>
    if c = ',' then some (next rest done stack)
    else if c = ']' then some (behindArray done stack)
    else none
  | .surplus done stack | .closing done stack =>
    if c = ']' then some (behindArray done stack) else none
  | .firstKey _ stack => if c = '\x7d' then some (behind (.object []) stack) else none
  | .key .. => none
  | .colon layout done name stack =>
    if c = ':' then some (.value (layout.member name) (.member layout done name :: stack)) else none
  | .afterMember layout done stack =>
    if c = ',' then some (.key layout done stack)
    else if c = '\x7d' then some (behind (.object done.reverse) stack)
    else none
  | .finished _ => none

end Place

/-! ## The reader -/

/-- The token that the reader is in the middle of. -/
inductive Lexeme where
  /-- Between two tokens. -/
  | none
  /-- In a word that stands for `v`, with the letters still to come. -/
  | word (next : Char) (rest : List Char) (v : Json)
  /-- In a number literal, with its characters so far, last first. -/
  | number (phase : Number.Phase) (read : List Char)
  /-- In a string literal, with its pieces so far, last first. -/
  | text (read : List Piece)
  /-- Behind the backslash of an escape. -/
  | escape (read : List Piece)
  /-- In a four-digit escape with `left` digits to come. -/
  | unit (read : List Piece) (left : Nat) (value : Nat)
  /-- In a surplus item. -/
  | surplus (s : Surplus)

/-- The state of the reader. -/
structure Reader where
  lexeme : Lexeme
  place : Place

namespace Reader

/-- The reader at the start of a text. -/
def start (layout : Layout) : Reader :=
  ⟨.none, .value layout []⟩

/-- A character that starts a token or is one. -/
def token (place : Place) (c : Char) : Option Reader :=
  if c = '"' then some ⟨.text [], place⟩
  else if c = 'n' then some ⟨.word 'u' ['l', 'l'] .null, place⟩
  else if c = 't' then some ⟨.word 'r' ['u', 'e'] (.bool true), place⟩
  else if c = 'f' then some ⟨.word 'a' ['l', 's', 'e'] (.bool false), place⟩
  else
    match Number.Phase.first? c with
    | some phase => some ⟨.number phase [c], place⟩
    | none => (place.mark c).map (⟨.none, ·⟩)

/-- A character that starts a token, is one, or stands between two. -/
def fresh (place : Place) (c : Char) : Option Reader :=
  if isBlank c then some ⟨.none, place⟩
  else
    match place with
    | .surplus done stack =>
      match Surplus.first? c with
      | some s => some ⟨.surplus s, .closing done stack⟩
      | none => (place.mark c).map (⟨.none, ·⟩)
    | _ => token place c

/-- What one character does. -/
def step (r : Reader) (c : Char) : Option Reader :=
  match r.lexeme with
  | .none => fresh r.place c
  | .word next rest v =>
    if c = next then
      match rest with
      | [] => (r.place.scalar v).map (⟨.none, ·⟩)
      | next' :: rest' => some ⟨.word next' rest' v, r.place⟩
    else none
  | .number phase read =>
    match phase.next? c with
    | some phase' => some ⟨.number phase' (c :: read), r.place⟩
    | none =>
      if phase.isComplete then
        (r.place.scalar (.number (.ofChars read.reverse))).bind (fresh · c)
      else none
  | .text read =>
    if c = '"' then (r.place.text (Piece.literal read.reverse)).map (⟨.none, ·⟩)
    else if c = '\\' then some ⟨.escape read, r.place⟩
    else if c.toNat < 32 then none
    else some ⟨.text (.char c :: read), r.place⟩
  | .escape read =>
    if c = 'u' then some ⟨.unit read 3 0, r.place⟩
    else (unescaped? c).map fun d => ⟨.text (.char d :: read), r.place⟩
  | .unit read left value =>
    (Hex.digitValue? c).map fun d =>
      let value' := 16 * value + d
      match left with
      | 0 => ⟨.text (.unit value' :: read), r.place⟩
      | left' + 1 => ⟨.unit read left' value', r.place⟩
  | .surplus s =>
    match s.step c with
    | .goesOn s' => some ⟨.surplus s', r.place⟩
    | .ends => some ⟨.none, r.place⟩
    | .ended => fresh r.place c
    | .refused => none

/-- The value that has been read when the text ends here. -/
def result? (r : Reader) : Option Json :=
  let place? :=
    match r.lexeme with
    | .none => some r.place
    | .number phase read =>
      if phase.isComplete then r.place.scalar (.number (.ofChars read.reverse)) else none
    | _ => none
  match place? with
  | some (.finished v) => some v
  | _ => none

/-- The reader behind the given characters. -/
def run (r : Reader) (text : List Char) : Option Reader :=
  text.foldlM step r

end Reader

/-- Reads a text that holds one value of the given layout, and blanks around it. -/
def readAs? (layout : Layout) (text : String) : Option Json :=
  ((Reader.start layout).run text.toList).bind Reader.result?

/-- Reads a text that holds one JSON value, and blanks around it. -/
def parse? (text : String) : Option Json :=
  readAs? .any text

end Json
end TxForge
