import NumericLanguage.Scope.Table

/-!
# The printed table of declarations

The declarations of the open scopes are printed one on a line, in columns of ten characters,
under a heading with a rule below it. A declaration without a value shows `-`.
-/

set_option autoImplicit false

namespace NumericLanguage.ScopeTable

/-- A text with spaces behind it, up to a number of characters. -/
def padded (width : Nat) (text : String) : String :=
  text ++ String.ofList (List.replicate (width - text.length) ' ')

/-- One line of the table. -/
def row (name type value scope line : String) : String :=
  padded 10 name ++ " " ++ padded 10 type ++ " " ++ padded 10 value ++ " " ++ padded 10 scope ++
    " " ++ line

/-- The heading of the columns. -/
def heading : String := row "Name" "Type" "Value" "Scope" "Line"

/-- The line of a declaration. -/
def declarationRow (declaration : Declaration) : String :=
  let value := match declaration.value with
    | some value => value.plain
    | none => "-"
  row declaration.name declaration.type.name value declaration.scope
    (toString declaration.line)

/-- The printed table. -/
def display (table : ScopeTable) : String :=
  let rule := String.ofList (List.replicate heading.length '-')
  "\n".intercalate
    ("=== SYMBOL TABLE ===" :: heading :: rule :: table.declarations.map declarationRow)

end NumericLanguage.ScopeTable
