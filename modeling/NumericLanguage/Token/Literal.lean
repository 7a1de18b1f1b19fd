import NumericLanguage.Text.Quoted
import NumericLanguage.Number.Notation

/-!
# Literal values

The value of a literal token, or of a declared variable that was given one: a whole number, a
double, a text or a truth value. A value has a plain text and a text in which strings are
quoted.
-/

set_option autoImplicit false

namespace NumericLanguage

/-- A value that a literal can have. -/
inductive Literal
  | integer (value : Int)
  | real (value : Binary64)
  | text (value : String)
  | truth (value : Bool)
  deriving DecidableEq, Repr

namespace Literal

/-- The text of a value; a string stands for itself. -/
def plain : Literal → String
  | integer value => toString value
  | real value => value.text
  | text value => value
  | truth value => if value then "True" else "False"

/-- The text of a value; a string is quoted. -/
def shown : Literal → String
  | text value => Text.quoted value
  | value => value.plain

end Literal

end NumericLanguage
