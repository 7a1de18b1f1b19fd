import NumericLanguage.Statement.Rules

/-!
# The record of a statement

The record of a statement says what its own tokens say, the type of its expression, and the records
of the statements inside it. The first part is its heading. The types depend on what has been
declared; without them a record depends on the tokens alone.
-/

set_option autoImplicit false

namespace NumericLanguage

/-! ## Headings -/

/-- What the tokens of a statement say about it, apart from the statements inside it. -/
inductive Heading
  | declaration (typeToken name : Token) (initial : Option (List Token))
  | read (keyword name : Token)
  | write (keyword : Token) (expression : List Token)
  | ifThen (keyword : Token) (condition : List Token)
  | ifThenElse (keyword : Token) (condition : List Token)
  | loop (keyword : Token) (condition : List Token)
  | block (opening : Token)
  /-- The tokens of an expression and the semicolon behind them. -/
  | expression (tokens : List Token) (semicolon : Token)

namespace Heading

/-- The kind of a statement. -/
def kind : Heading → StatementKind
  | declaration _ _ _ => .declaration
  | read _ _ => .read
  | write _ _ => .write
  | ifThen _ _ => .conditional
  | ifThenElse _ _ => .conditional
  | loop _ _ => .loop
  | block _ => .block
  | expression _ _ => .expression

/-- The first token of a statement. -/
def anchor : Heading → Token
  | declaration typeToken _ _ => typeToken
  | read keyword _ => keyword
  | write keyword _ => keyword
  | ifThen keyword _ => keyword
  | ifThenElse keyword _ => keyword
  | loop keyword _ => keyword
  | block opening => opening
  | expression tokens semicolon => tokens.head?.getD semicolon

/-- The name that a statement declares, reads or assigns to. -/
def target : Heading → Option String
  | declaration _ name _ => some name.lexeme
  | read _ name => some name.lexeme
  | expression tokens _ => (Parse.assignment? tokens).map fun parts => parts.1.lexeme
  | _ => none

/-- The text of a statement, given the records of the statements inside it. -/
def content (children : List Statement) : Heading → String
  | declaration typeToken name initial => Parse.declarationContent typeToken name initial
  | read _ name => name.lexeme
  | write _ tokens => Token.spelledOut tokens
  | ifThen _ condition => "if (" ++ Token.spelledOut condition ++ ")"
  | ifThenElse _ condition => "if (" ++ Token.spelledOut condition ++ ")" ++ " [else]"
  | loop _ condition => Token.spelledOut condition
  | block _ => Statement.blockContent children
  | expression tokens _ => Token.spelledOut tokens

/-- The record of a statement, given the type of its expression and the records of the statements
inside it. -/
def toStatement (heading : Heading) (type : Option ValueType) (children : List Statement) :
    Statement where
  kind := heading.kind
  content := heading.content children
  location := heading.anchor.location
  type := type
  target := heading.target
  children := children

end Heading

/-! ## Records without types -/

namespace Statement

mutual
/-- A record without the types of its expressions. -/
def untyped : Statement → Statement
  | ⟨kind, content, location, _, target, children⟩ =>
      ⟨kind, content, location, none, target, untypedAll children⟩

/-- Records without the types of their expressions. -/
def untypedAll : List Statement → List Statement
  | [] => []
  | first :: others => untyped first :: untypedAll others
end

/-- The text of a record does not tell types. -/
theorem text_untyped (statement : Statement) : statement.untyped.text = statement.text := by
  obtain ⟨kind, content, location, type, target, children⟩ := statement
  rfl

theorem untypedAll_eq_map (statements : List Statement) :
    untypedAll statements = statements.map untyped := by
  induction statements with
  | nil => rfl
  | cons first others ih => rw [untypedAll, ih, List.map_cons]

theorem blockContent_untyped (statements : List Statement) :
    blockContent (untypedAll statements) = blockContent statements := by
  rw [untypedAll_eq_map, blockContent, blockContent, List.map_map]
  simp only [Function.comp_def, text_untyped]

end Statement

theorem Heading.toStatement_untyped (heading : Heading) (type : Option ValueType)
    (children : List Statement) :
    (heading.toStatement type children).untyped =
      heading.toStatement none (Statement.untypedAll children) := by
  cases heading with
  | block opening =>
      simp only [toStatement, Statement.untyped, content, Statement.blockContent_untyped]
  | _ => rfl

end NumericLanguage
