import NumericLanguage.Scope.ValueType
import NumericLanguage.Token.Literal

/-!
# Declarations and scopes

A declaration binds a name to a type. A scope holds the declarations of one block, in the order
in which they were made and with no name twice.
-/

set_option autoImplicit false

namespace NumericLanguage

/-- A declared variable. The value is shown and never checked. -/
structure Declaration where
  name : String
  type : ValueType
  line : Int
  /-- The name of the scope that holds the declaration. -/
  scope : String
  value : Option Literal
  location : Location
  deriving DecidableEq, Repr

/-- The type and the name. -/
def Declaration.text (declaration : Declaration) : String :=
  declaration.type.name ++ " " ++ declaration.name

/-- The declarations of one block, the oldest first. -/
structure Scope where
  name : String
  depth : Nat
  declarations : List Declaration := []
  deriving DecidableEq, Repr

namespace Scope

/-- The declaration of a name in a scope. -/
def find? (scope : Scope) (name : String) : Option Declaration :=
  scope.declarations.find? fun declaration => declaration.name = name

/-- Whether a scope declares a name. -/
def declares (scope : Scope) (name : String) : Bool := (scope.find? name).isSome

/-- The declared names, the oldest first. -/
def names (scope : Scope) : List String := scope.declarations.map Declaration.name

/-- A scope with one more declaration, the youngest. -/
def add (scope : Scope) (declaration : Declaration) : Scope :=
  { scope with declarations := scope.declarations ++ [declaration] }

/-- A scope with a value stored in the declaration of a name. -/
def storeValue (scope : Scope) (name : String) (value : Option Literal) : Scope :=
  { scope with
    declarations := scope.declarations.map fun declaration =>
      if declaration.name = name then { declaration with value := value } else declaration }

/-- The name of a scope and the number of its declarations. -/
def text (scope : Scope) : String :=
  "Scope(" ++ scope.name ++ ", " ++ toString scope.declarations.length ++ " symbols)"

/-- A name is not declared in a scope if no declaration there has it. -/
theorem find?_eq_none_iff {scope : Scope} {name : String} :
    scope.find? name = none ↔ ∀ declaration ∈ scope.declarations, declaration.name ≠ name := by
  simp [find?]

/-- A value is stored in the declaration that was just added, and in no other one. -/
theorem storeValue_add {scope : Scope} {declaration : Declaration}
    (isNew : scope.find? declaration.name = none) (value : Option Literal) :
    (scope.add declaration).storeValue declaration.name value =
      scope.add { declaration with value := value } := by
  have others : scope.declarations.map (fun other =>
      if other.name = declaration.name then { other with value := value } else other) =
        scope.declarations := by
    refine (List.map_congr_left fun other inside => ?_).trans (List.map_id _)
    have different := List.find?_eq_none.mp isNew other inside
    exact if_neg (by simpa using different)
  simp only [storeValue, add, List.map_append, others, List.map_cons, List.map_nil, if_true]

end Scope

end NumericLanguage
