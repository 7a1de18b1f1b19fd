import NumericLanguage.Scope.Table
import NumericLanguage.Token.Basic

/-!
# The type of an expression

An expression is a run of tokens, and its type is read off them. A string literal makes it a
string; otherwise a real literal or a variable declared as double makes it a double; otherwise
it is long. Names without a visible declaration contribute nothing.
-/

set_option autoImplicit false

namespace NumericLanguage.ScopeTable

/-- A name of a variable that is visible as a double. -/
def isDoubleVariable (table : ScopeTable) (token : Token) : Bool :=
  token.kind = .identifier &&
    (table.lookup token.lexeme).any fun declaration => declaration.type = .double

/-- The type of an expression. -/
def infer (table : ScopeTable) (expression : List Token) : ValueType :=
  if expression.any fun token => token.kind = .string then .string
  else if expression.any fun token => token.kind = .real then .double
  else if expression.any table.isDoubleVariable then .double
  else .long

end NumericLanguage.ScopeTable
