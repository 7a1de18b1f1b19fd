import NumericLanguage.Scope.ValueType

/-!
# Violated rules of names and types

The ways in which a well-formed statement breaks a rule about names or types. Each has a code, a
message and a word of help; together with the place they make a diagnostic.
-/

set_option autoImplicit false

namespace NumericLanguage

/-- A broken rule about names or types. -/
inductive SemanticFault
  /-- No declaration of the name is visible. -/
  | undeclared (name : String)
  /-- The value does not fit into the variable. -/
  | narrowing (name : String) (declared inferred : ValueType)
  /-- The condition is no number. -/
  | nonNumericCondition (inferred : ValueType)
  /-- The scope already has a declaration of the name. -/
  | redeclared (name : String) (line : Int)
  deriving DecidableEq, Repr

namespace SemanticFault

/-- The codes of broken rules and what each stands for. -/
def codes : List (String × String) :=
  [("S001", "Narrowing assignment"), ("S003", "Non-numeric condition"),
    ("S010", "Undeclared variable"), ("S011", "Variable redeclaration")]

/-- The code of a fault. -/
def code : SemanticFault → String
  | narrowing _ _ _ => "S001"
  | nonNumericCondition _ => "S003"
  | undeclared _ => "S010"
  | redeclared _ _ => "S011"

/-- The fault in words. -/
def message : SemanticFault → String
  | undeclared name => "variable '" ++ name ++ "' used without declaration"
  | narrowing name declared inferred =>
      "narrowing assignment not allowed: cannot assign " ++ inferred.name ++ " to " ++
        declared.name ++ " '" ++ name ++ "'"
  | nonNumericCondition inferred => "condition must be numeric, found " ++ inferred.name
  | redeclared name line =>
      "variable '" ++ name ++ "' was already declared in this scope (line " ++ toString line ++
        ")"

/-- How to mend a fault. -/
def help : SemanticFault → String
  | undeclared name => "Declare '" ++ name ++ "' with 'long' or 'double' before using it."
  | narrowing name declared _ =>
      "'" ++ name ++ "' is declared " ++ declared.name ++
        "; declare it double to hold real values."
  | nonNumericCondition _ =>
      "Conditions are numeric; zero is false and any other value is true."
  | redeclared _ _ => "The first declaration stays in effect."

/-- The severity of a fault, unless another one is asked for. -/
def severity : SemanticFault → Severity
  | redeclared _ _ => .warning
  | _ => .error

/-- The diagnostic of a fault at a place, with a given severity. -/
def diagnosticAs (fault : SemanticFault) (severity : Severity) (location : Location) :
    Diagnostic where
  message := fault.message
  location := location
  severity := severity
  category := .semantic
  code := some fault.code
  help := some fault.help

/-- The diagnostic of a fault at a place. -/
def diagnostic (fault : SemanticFault) (location : Location) : Diagnostic :=
  fault.diagnosticAs fault.severity location

end SemanticFault

end NumericLanguage
