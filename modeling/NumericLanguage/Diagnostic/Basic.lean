import NumericLanguage.Source.Position
import NumericLanguage.Text.Quoted

/-!
# Diagnostics

A diagnostic is a message about a place in a program. It says how serious the matter is and
which part of the language was violated; a code and a word of help may go with it.
-/

set_option autoImplicit false

namespace NumericLanguage

/-- How serious a diagnostic is. -/
inductive Severity
  | error
  | warning
  deriving DecidableEq, Repr

/-- The part of the language that a program violated. -/
inductive Category
  | lexical
  | syntactic
  | semantic
  deriving DecidableEq, Repr

/-- A name that is none of those a choice offers. -/
structure UnknownName where
  /-- What was to be chosen. -/
  choice : String
  /-- The name that was given. -/
  given : String
  deriving DecidableEq, Repr

/-- The name, quoted, and what it was taken for. -/
def UnknownName.message (fault : UnknownName) : String :=
  Text.quoted fault.given ++ " is not a valid " ++ fault.choice

namespace Severity

/-- The name of a severity. -/
def name : Severity → String
  | error => "error"
  | warning => "warning"

/-- The word that introduces a printed diagnostic. -/
def label : Severity → String
  | error => "ERROR"
  | warning => "WARNING"

/-- The severity with a given name. -/
def ofName (text : String) : Except UnknownName Severity :=
  if text = "error" then .ok error
  else if text = "warning" then .ok warning
  else .error ⟨"Severity", text⟩

end Severity

namespace Category

/-- The name of a category. -/
def name : Category → String
  | lexical => "lexical"
  | syntactic => "syntactic"
  | semantic => "semantic"

/-- The category with a given name. -/
def ofName (text : String) : Except UnknownName Category :=
  if text = "lexical" then .ok lexical
  else if text = "syntactic" then .ok syntactic
  else if text = "semantic" then .ok semantic
  else .error ⟨"Category", text⟩

end Category

/-- A message about a place in a program. -/
structure Diagnostic where
  message : String
  location : Location
  severity : Severity
  category : Category
  code : Option String := none
  help : Option String := none
  deriving DecidableEq, Repr

namespace Diagnostic

/-- A diagnostic that makes the program invalid. -/
def isError (diagnostic : Diagnostic) : Bool := diagnostic.severity = .error

/-- A diagnostic that leaves the program valid. -/
def isWarning (diagnostic : Diagnostic) : Bool := diagnostic.severity = .warning

/-- The same matter stated anew, as an error of a given category. -/
def restatedAs (category : Category) (diagnostic : Diagnostic) : Diagnostic :=
  { diagnostic with severity := .error, category := category }

/-- An error is stated anew as itself in its own category. -/
theorem restatedAs_self {diagnostic : Diagnostic} {category : Category}
    (isError : diagnostic.isError = true) (same : diagnostic.category = category) :
    diagnostic.restatedAs category = diagnostic := by
  obtain ⟨message, location, severity, _, code, help⟩ := diagnostic
  cases same
  cases of_decide_eq_true isError
  rfl

/-- The printed form: the message, the place, and the help unless it is missing or empty. -/
def text (diagnostic : Diagnostic) : String :=
  diagnostic.severity.label ++ ": " ++ diagnostic.message ++ "\n" ++
    "  --> " ++ diagnostic.location.text ++ "\n" ++
    match diagnostic.help with
    | some help => if help.isEmpty then "" else "  help: " ++ help ++ "\n"
    | none => ""

end Diagnostic

end NumericLanguage
