import NumericLanguage.Scope.Declaration
import NumericLanguage.Scope.Fault

/-!
# Tables of open scopes

The open scopes form a stack. Entering a block puts an empty scope on it, leaving the block takes
the scope off with all its declarations; the global scope at the bottom is never taken off. A
name is looked up from the innermost scope outwards, so that an inner declaration hides an outer
one.

Blocks are numbered in the order in which they are entered, and a number is never used twice.
-/

set_option autoImplicit false

namespace NumericLanguage

/-! ## Faults -/

/-- A second declaration of a name in one scope; the first one stays in effect. -/
structure Redeclaration where
  name : String
  location : Location
  existing : Declaration
  deriving DecidableEq, Repr

namespace Redeclaration

/-- The broken rule. -/
def fault (redeclaration : Redeclaration) : SemanticFault :=
  .redeclared redeclaration.name redeclaration.existing.line

/-- The diagnostic of a redeclaration with a given severity. -/
def diagnosticAs (redeclaration : Redeclaration) (severity : Severity) : Diagnostic :=
  redeclaration.fault.diagnosticAs severity redeclaration.location

/-- The diagnostic of a redeclaration, a warning. -/
def diagnostic (redeclaration : Redeclaration) : Diagnostic :=
  redeclaration.fault.diagnostic redeclaration.location

end Redeclaration

/-- An attempt to leave a block where none is open. -/
inductive NoOpenBlock
  | globalScope
  deriving DecidableEq, Repr

/-- The fault in words. -/
def NoOpenBlock.message : NoOpenBlock → String
  | globalScope => "cannot discard the global scope"

/-! ## Tables -/

/-- The stack of open scopes, and how many blocks have been entered so far. -/
structure ScopeTable where
  /-- The innermost scope. -/
  current : Scope
  /-- The scopes around it, from the inside to the outside. -/
  enclosing : List Scope
  opened : Nat
  deriving DecidableEq, Repr

namespace ScopeTable

/-- The table with nothing but an empty global scope. -/
def empty : ScopeTable := ⟨⟨"global", 0, []⟩, [], 0⟩

/-- The open scopes, from the inside to the outside. -/
def stack (table : ScopeTable) : List Scope := table.current :: table.enclosing

/-- The open scopes, from the outside to the inside. -/
def scopes (table : ScopeTable) : List Scope := table.stack.reverse

/-- The outermost scope. -/
def global (table : ScopeTable) : Scope := table.stack.getLast (List.cons_ne_nil _ _)

/-- The number of open blocks. -/
def depth (table : ScopeTable) : Nat := table.enclosing.length

/-- The name of the scope of a block, given the number of the block. -/
def blockName (number : Nat) : String := "block" ++ toString number

/-- The table after entering a block. -/
def enter (table : ScopeTable) : ScopeTable where
  current := ⟨blockName (table.opened + 1), table.stack.length, []⟩
  enclosing := table.stack
  opened := table.opened + 1

/-- The scope of the innermost block, and the table after leaving it. -/
def leave (table : ScopeTable) : Except NoOpenBlock (Scope × ScopeTable) :=
  match table.enclosing with
  | [] => .error .globalScope
  | outer :: others => .ok (table.current, { table with current := outer, enclosing := others })

/-- The declaration of a name that is visible in the innermost scope. -/
def lookup (table : ScopeTable) (name : String) : Option Declaration :=
  table.stack.findSome? fun scope => scope.find? name

/-- Whether a declaration of the name is visible. -/
def isVisible (table : ScopeTable) (name : String) : Bool := (table.lookup name).isSome

/-- Declares a name in the innermost scope, unless that scope declares it already. -/
def declare (table : ScopeTable) (name : String) (type : ValueType) (line : Int)
    (location : Location) (value : Option Literal) :
    Except Redeclaration (Declaration × ScopeTable) :=
  match table.current.find? name with
  | some existing => .error ⟨name, location, existing⟩
  | none =>
      let declaration : Declaration := ⟨name, type, line, table.current.name, value, location⟩
      .ok (declaration, { table with current := table.current.add declaration })

/-- The place of a declaration for which none is given. -/
def unknownLocation (line : Int) : Location := ⟨"<unknown>", line, 1, 0⟩

/-- The table with a value stored in the declaration of a name in the innermost scope. -/
def storeValue (table : ScopeTable) (name : String) (value : Option Literal) : ScopeTable :=
  { table with current := table.current.storeValue name value }

/-- The declarations of all open scopes, from the outside to the inside. -/
def declarations (table : ScopeTable) : List Declaration :=
  table.scopes.flatMap Scope.declarations

/-- The innermost scope in words. -/
def text (table : ScopeTable) : String :=
  "SymbolTable(current: " ++ table.current.text ++ ")"

/-- Leaving a block that was just entered gives back the scopes from before. -/
@[simp] theorem leave_enter (table : ScopeTable) :
    table.enter.leave = .ok (table.enter.current, { table with opened := table.opened + 1 }) :=
  rfl

end ScopeTable

end NumericLanguage
