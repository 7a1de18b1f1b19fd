import NumericLanguage.Diagnostic.Basic

/-!
# Types of values

A variable is declared as `long` or `double`. An expression can also be found to be a string,
which is no number.
-/

set_option autoImplicit false

namespace NumericLanguage

/-- The type of a variable or of an expression. -/
inductive ValueType
  | long
  | double
  | string
  deriving DecidableEq, Repr

/-- Why a word names no type of variables. -/
inductive TypeWordFault
  /-- The word names no type. -/
  | unknown (fault : UnknownName)
  /-- Variables cannot have this type. -/
  | undeclarable (type : ValueType)
  deriving DecidableEq, Repr

namespace ValueType

/-- All types. -/
def all : List ValueType := [long, double, string]

/-- The name of a type. -/
def name : ValueType → String
  | long => "long"
  | double => "double"
  | string => "string"

/-- A type of numbers. -/
def isNumeric : ValueType → Bool
  | long | double => true
  | string => false

/-- The type with a given name. -/
def ofName (text : String) : Except UnknownName ValueType :=
  match all.find? fun type => type.name = text with
  | some type => .ok type
  | none => .error ⟨"ValueType", text⟩

/-- The type of variables that a word names. -/
def ofWord (text : String) : Except TypeWordFault ValueType :=
  match ofName text with
  | .ok type => if type.isNumeric then .ok type else .error (.undeclarable type)
  | .error fault => .error (.unknown fault)

/-- A double that would flow into a long variable. -/
def narrows (target value : ValueType) : Bool := target = long && value = double

end ValueType

/-- The fault in words. -/
def TypeWordFault.message : TypeWordFault → String
  | unknown fault => fault.message
  | undeclarable type => "'" ++ type.name ++ "' is not a declarable type"

end NumericLanguage
