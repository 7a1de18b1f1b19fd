import NumericLanguage.Token.Sequence
import NumericLanguage.Source.Bounds

/-!
# Scanning by hand

A cursor stands in a named text and can be moved over any number of characters, also into the
middle of an element. From where it stands it can look ahead and back, and it can read one
element.
-/

set_option autoImplicit false

namespace NumericLanguage

/-- A place in a named text, with the characters on both sides. -/
structure Cursor where
  file : String
  position : Position
  /-- The characters in front, the nearest first. -/
  passed : List Char
  rest : List Char
  deriving DecidableEq, Repr

/-- What a cursor has read. -/
inductive Reading
  | nothing
  | token (token : Token)
  | fault (diagnostic : Diagnostic)
  deriving DecidableEq, Repr

namespace Cursor

/-- A cursor at the beginning of a text. -/
def ofText (file : String) (source : String) : Cursor :=
  ⟨file, Position.start, [], source.toList⟩

/-- The whole text in which the cursor stands. -/
def text (cursor : Cursor) : List Char := cursor.passed.reverse ++ cursor.rest

/-- The cursor moved over a number of characters, or to the end of the text. -/
def advance (cursor : Cursor) (count : Nat) : Cursor :=
  { cursor with
    position := cursor.position.after (cursor.rest.take count)
    passed := (cursor.rest.take count).reverse ++ cursor.passed
    rest := cursor.rest.drop count }

/-- The character that stands a number of characters ahead, or U+0000 past the end. A negative
number looks back, and in front of the text it counts from the end of the text. -/
def peek (cursor : Cursor) (offset : Int) : Except OutOfRange Char :=
  if cursor.passed.length + offset < cursor.text.length then
    (entryAt cursor.text (cursor.passed.length + offset)).mapError fun _ => .text
  else .ok '\x00'

/-- What an element is, read at the position of the cursor. -/
def reading (cursor : Cursor) (element : Element) : Reading :=
  match element.token? cursor.file cursor.position,
      element.diagnostic? cursor.file cursor.position with
  | some token, _ => .token token
  | none, some diagnostic => .fault diagnostic
  | none, none => .nothing

/-- Reads the element at the cursor and moves behind it; at the end there is none. -/
def next (cursor : Cursor) : Except OutOfRange (Reading × Cursor) :=
  match cursor.rest with
  | [] => .error .text
  | head :: rest =>
      let element := scan head rest
      .ok (cursor.reading element, cursor.advance element.text.length)

/-- Moving stays in the same text. -/
theorem advance_text (cursor : Cursor) (count : Nat) :
    (cursor.advance count).text = cursor.text := by
  simp only [text, advance, List.reverse_append, List.reverse_reverse, List.append_assoc,
    List.take_append_drop]

end Cursor

end NumericLanguage
