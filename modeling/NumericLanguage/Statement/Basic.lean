import NumericLanguage.Scope.ValueType

/-!
# Statements

A recognised statement is recorded by its kind, the text of its expression or of its parts, the
place where it begins, and what was found out about it: the type of its expression, the name it
assigns to, and the statements inside it. A whole program is recorded as the list of its outermost
statements.
-/

set_option autoImplicit false

namespace NumericLanguage

/-- The kind of a statement. -/
inductive StatementKind
  | declaration
  | read
  | write
  | conditional
  | loop
  | block
  | expression
  deriving DecidableEq, Repr

/-- The printed name of a kind of statements. -/
def StatementKind.name : StatementKind → String
  | declaration => "varDecl"
  | read => "read"
  | write => "write"
  | conditional => "if"
  | loop => "while"
  | block => "block"
  | expression => "expr"

/-- A recognised statement. -/
structure Statement where
  kind : StatementKind
  content : String
  location : Location
  /-- The type of its expression, where one was inferred. -/
  type : Option ValueType := none
  /-- The name that it declares, reads or assigns to. -/
  target : Option String := none
  /-- The statements inside it, in order. -/
  children : List Statement := []
  deriving Repr

namespace Statement

mutual
/-- A statement and all statements inside it, each before those inside it. -/
def walk : Statement → List Statement
  | ⟨kind, content, location, type, target, children⟩ =>
      ⟨kind, content, location, type, target, children⟩ :: walkAll children

/-- All statements of a list and all statements inside them. -/
def walkAll : List Statement → List Statement
  | [] => []
  | first :: others => walk first ++ walkAll others
end

theorem walk_eq (statement : Statement) :
    statement.walk = statement :: walkAll statement.children := by
  obtain ⟨kind, content, location, type, target, children⟩ := statement
  rw [walk]

theorem walkAll_cons (first : Statement) (others : List Statement) :
    walkAll (first :: others) = first :: (walkAll first.children ++ walkAll others) := by
  rw [walkAll, walk_eq, List.cons_append]

theorem walkAll_append (statements others : List Statement) :
    walkAll (statements ++ others) = walkAll statements ++ walkAll others := by
  induction statements with
  | nil => rfl
  | cons first statements ih => simp only [List.cons_append, walkAll, ih, List.append_assoc]

theorem walkAll_eq_flatMap (statements : List Statement) :
    walkAll statements = statements.flatMap walk := by
  induction statements with
  | nil => rfl
  | cons first others ih => rw [walkAll, ih, List.flatMap_cons]

/-- A statement in words: its kind, its content and its line. -/
def text (statement : Statement) : String :=
  statement.kind.name ++ " -> " ++ statement.content ++ " (line " ++
    toString statement.location.line ++ ")"

/-- The content of a block: its statements in words, each on a line of its own. -/
def blockContent (children : List Statement) : String :=
  String.join (children.map fun child => "\n  " ++ child.text)

end Statement

end NumericLanguage
