/-!
# Positions in a text

A position counts the characters before it, and gives the line and the column of the character
that stands there. Lines and columns start at one; a newline ends its line. A location is a
position in a named text.
-/

set_option autoImplicit false

namespace NumericLanguage

/-! ## Positions -/

/-- A place in a text: line and column from one, offset from zero. -/
structure Position where
  line : Nat := 1
  column : Nat := 1
  offset : Nat := 0
  deriving DecidableEq, Repr

namespace Position

/-- The beginning of a text. -/
def start : Position := {}

/-- The position behind a character. -/
def next (position : Position) (c : Char) : Position :=
  if c = '\n' then ⟨position.line + 1, 1, position.offset + 1⟩
  else ⟨position.line, position.column + 1, position.offset + 1⟩

/-- The position behind a run of characters. -/
def after (position : Position) (text : List Char) : Position :=
  text.foldl next position

@[simp] theorem after_nil (position : Position) : position.after [] = position := rfl

@[simp] theorem after_cons (position : Position) (c : Char) (text : List Char) :
    position.after (c :: text) = (position.next c).after text := rfl

theorem after_append (position : Position) (first second : List Char) :
    position.after (first ++ second) = (position.after first).after second := by
  simp only [after, List.foldl_append]

@[simp] theorem offset_next (position : Position) (c : Char) :
    (position.next c).offset = position.offset + 1 := by
  unfold next
  split <;> rfl

theorem offset_after (position : Position) (text : List Char) :
    (position.after text).offset = position.offset + text.length := by
  induction text generalizing position with
  | nil => rfl
  | cons c text ih =>
    rw [after_cons, ih, offset_next, List.length_cons]
    omega

end Position

/-! ## Locations -/

/-- A place in a named text. -/
structure Location where
  file : String
  line : Int
  column : Int
  offset : Int
  deriving DecidableEq, Repr

namespace Location

/-- The name of the text, the line and the column. -/
def text (location : Location) : String :=
  location.file ++ ":" ++ toString location.line ++ ":" ++ toString location.column

end Location

/-- A position as a location in the named text. -/
def Position.within (position : Position) (file : String) : Location :=
  ⟨file, position.line, position.column, position.offset⟩

end NumericLanguage
