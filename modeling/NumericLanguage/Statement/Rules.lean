import NumericLanguage.Statement.Parse

/-!
# The rules of the grammar

A program is a list of declarations and statements:

* a declaration is a type, a name, an optional initial value, and a semicolon;
* a statement is `read ( name ) ;`, `write ( expression ) ;`,
  `if ( expression ) then statement` with an optional `else statement`,
  `while ( expression ) block`, a block, or an expression and a semicolon;
* a block is a list of declarations and statements between braces.

Every rule except the first takes the step that parses a statement inside the current one. The
rule for statements ties the knot: it descends into itself with one less level to spare, so that
at most `maxNesting` statements are open at once.

Names and types are checked on the way. A declaration is visible from its own initial value on.
The first word of `write` and the target of an assignment have to be declared, a double must not
flow into a long variable, and the condition of `if` has to be a number.
-/

set_option autoImplicit false

namespace NumericLanguage

/-- What to do about a second declaration of a name in one scope. -/
structure RedeclarationPolicy where
  /-- Whether it counts as an error. -/
  asErrors : Bool := false
  /-- Whether it is recorded at all. -/
  reported : Bool := true
  deriving DecidableEq, Repr

/-- The severity of a recorded redeclaration. -/
def RedeclarationPolicy.severity (policy : RedeclarationPolicy) : Severity :=
  if policy.asErrors then .error else .warning

/-- The greatest number of statements that may be open at once. -/
def maxNesting : Nat := 128

namespace Parse

/-! ## Declarations -/

/-- The type that a token names. -/
def typeOf (token : Token) : Parse ValueType :=
  match ValueType.ofWord token.lexeme with
  | .ok type => pure type
  | .error fault => throw (.typeWord fault)

/-- Notes a redeclaration, and records it if the policy says so. -/
def reportRedeclaration (policy : RedeclarationPolicy) (redeclaration : Redeclaration) :
    Parse Unit := do
  note (.redeclared redeclaration.location.line redeclaration.name)
  if policy.reported then
    record (redeclaration.diagnosticAs policy.severity)

/-- Declares a name in the innermost scope and tells whether it was free there. -/
def declareName (policy : RedeclarationPolicy) (type : ValueType) (line : Int) (name : Token) :
    Parse Bool := do
  match (← get).table.declare name.lexeme type line name.location none with
  | .ok (declaration, table) =>
      note (.declared declaration.name type declaration.scope)
      modify fun state => { state with table := table }
      return true
  | .error redeclaration =>
      reportRedeclaration policy redeclaration
      return false

/-- The value that a declaration shows for an initial value: that of a single number. -/
def initialValue (expression : List Token) : Option (Option Literal) :=
  match expression with
  | [token] => if token.kind.isNumericLiteral then some token.value else none
  | _ => none

/-- Stores the value of a single number in the declaration of a name. -/
def storeInitialValue (name : Token) (expression : List Token) : Parse Unit :=
  match initialValue expression with
  | some value =>
      modify fun state => { state with table := state.table.storeValue name.lexeme value }
  | none => pure ()

/-- The expression behind an assignment sign, if there is such a sign, and its type. -/
def initializer : Parse (Option (List Token × ValueType)) := do
  if ← accept (.operator .assign) then
    let expression ← capture
    return some (expression, (← get).table.infer expression)
  return none

/-- The content of a declaration. -/
def declarationContent (type name : Token) (expression : Option (List Token)) : String :=
  type.lexeme ++ " " ++ name.lexeme ++
    match expression with
    | some expression => " = " ++ Token.spelledOut expression
    | none => ""

/-- A type, a name, an optional initial value, and a semicolon. -/
def variableDeclaration (policy : RedeclarationPolicy) : Parse Statement := do
  let typeToken ← advance
  let type ← typeOf typeToken
  let name ← consume .identifier "after the type"
  let isNew ← declareName policy type typeToken.location.line name
  let initial ← initializer
  if isNew then
    storeInitialValue name ((initial.map Prod.fst).getD [])
  let _ ← consume (.operator .semicolon) "after the declaration"
  return {
    kind := .declaration
    content := declarationContent typeToken name (initial.map Prod.fst)
    location := typeToken.location
    type := initial.map Prod.snd
    target := some name.lexeme }

/-! ## Simple statements -/

/-- `read ( name ) ;` -/
def readStatement : Parse Statement := do
  let keyword ← advance
  let _ ← consume (.operator .leftParen) "after 'read'"
  let name ← consume .identifier "inside read()"
  let _ ← consume (.operator .rightParen) "to close read()"
  let _ ← consume (.operator .semicolon) "after read()"
  let declaration := (← get).table.lookup name.lexeme
  if declaration.isNone then
    report (.undeclared name.lexeme) name
  return {
    kind := .read
    content := name.lexeme
    location := keyword.location
    type := declaration.map Declaration.type
    target := some name.lexeme }

/-- Reports the first token of an expression if it is a name without a visible declaration. -/
def checkLeadingName (expression : List Token) : Parse Unit := do
  match expression with
  | first :: _ =>
      if first.kind = .identifier && !(← get).table.isVisible first.lexeme then
        report (.undeclared first.lexeme) first
  | [] => pure ()

/-- `write ( expression ) ;` -/
def writeStatement : Parse Statement := do
  let keyword ← advance
  let _ ← consume (.operator .leftParen) "after 'write'"
  let expression ← capture
  let _ ← consume (.operator .rightParen) "to close write()"
  let _ ← consume (.operator .semicolon) "after write()"
  checkLeadingName expression
  return {
    kind := .write
    content := Token.spelledOut expression
    location := keyword.location
    type := some ((← get).table.infer expression) }

/-- The target of an expression that has the shape of an assignment, and what is assigned. -/
def assignment? : List Token → Option (Token × List Token)
  | target :: sign :: value =>
      if target.kind = .identifier ∧ sign.kind.isAssignment then some (target, value) else none
  | _ => none

/-- Reports an assignment to a name without a visible declaration, and one of a double to a long
variable. -/
def checkAssignment (target : Token) (type : ValueType) : Parse Unit := do
  match (← get).table.lookup target.lexeme with
  | none => report (.undeclared target.lexeme) target
  | some declaration =>
      if declaration.type.narrows type then
        report (.narrowing target.lexeme declaration.type type) target

/-- An expression, which may be empty, and a semicolon. -/
def expressionStatement : Parse Statement := do
  let first ← peek
  let expression ← capture
  let _ ← consume (.operator .semicolon) "after the expression"
  let content := Token.spelledOut expression
  match assignment? expression with
  | some (target, value) =>
      let type := (← get).table.infer value
      checkAssignment target type
      return {
        kind := .expression
        content := content
        location := first.location
        type := some type
        target := some target.lexeme }
  | none =>
      let type := (← get).table.infer expression
      return {
        kind := .expression
        content := content
        location := first.location
        type := if expression.isEmpty then none else some type }

/-! ## Statements with parts -/

/-- Goes on after a failure: a rejection is recorded and nothing is recognised; any other
failure stands. -/
def goOn (start : Nat) : Failure → Parse (Option Statement)
  | .rejected rejection => do
      record rejection.diagnostic
      recover start rejection.fault.needsRecovery
      return none
  | failure => throw failure

/-- A declaration or a statement. If its tokens are rejected the rejection is recorded, nothing
is recognised, and parsing goes on behind it. -/
def declarationOrStatement (policy : RedeclarationPolicy) (inner : Parse Statement) :
    Parse (Option Statement) := do
  let stream := (← get).stream
  let body := if stream.atTypeName then variableDeclaration policy else inner
  tryCatch (some <$> body) (goOn stream.position)

/-- Reports a condition that is no number, at its first token. -/
def checkCondition (keyword : Token) (condition : List Token) (type : ValueType) :
    Parse Unit := do
  if !type.isNumeric then
    report (.nonNumericCondition type) (condition.head?.getD keyword)

/-- `if ( expression ) then statement`, with an optional `else statement`. -/
def conditionalStatement (inner : Parse Statement) : Parse Statement := do
  let keyword ← advance
  let _ ← consume (.operator .leftParen) "after 'if'"
  let condition ← capture
  let _ ← consume (.operator .rightParen) "to close the if condition"
  let _ ← consume (.keyword .thenWord) "after the if condition"
  let type := (← get).table.infer condition
  checkCondition keyword condition type
  let consequence ← inner
  let content := "if (" ++ Token.spelledOut condition ++ ")"
  if ← accept (.keyword .elseWord) then
    let alternative ← inner
    return {
      kind := .conditional
      content := content ++ " [else]"
      location := keyword.location
      type := some type
      children := [consequence, alternative] }
  return {
    kind := .conditional
    content := content
    location := keyword.location
    type := some type
    children := [consequence] }

/-- The statements of a block and the brace that closes it. A missing brace is recorded, and the
block ends where the input does. -/
def blockBody (policy : RedeclarationPolicy) (inner : Parse Statement) (opening : Token) :
    Parse (List Statement) := do
  let children ← repeatUntil
    (fun stream => stream.startsWith (.operator .rightBrace) || stream.atEnd)
    (declarationOrStatement policy inner)
  if !(← accept (.operator .rightBrace)) then
    record (Rejection.diagnostic ⟨.unclosedBlock opening.location, ← peek⟩)
  return children

/-- A block, whose declarations are gone when it ends. -/
def blockStatement (policy : RedeclarationPolicy) (inner : Parse Statement) :
    Parse Statement := do
  let opening ← consume (.operator .leftBrace) "to open a block"
  let children ← inScope (blockBody policy inner opening)
  return {
    kind := .block
    content := Statement.blockContent children
    location := opening.location
    children := children }

/-- `while ( expression ) block` -/
def loopStatement (policy : RedeclarationPolicy) (inner : Parse Statement) :
    Parse Statement := do
  let keyword ← advance
  let _ ← consume (.operator .leftParen) "after 'while'"
  let condition ← capture
  let _ ← consume (.operator .rightParen) "to close the while condition"
  expect (.operator .leftBrace) "to start the while body"
  let body ← blockStatement policy inner
  return {
    kind := .loop
    content := Token.spelledOut condition
    location := keyword.location
    type := some ((← get).table.infer condition)
    children := [body] }

/-! ## Statements -/

/-- A statement of the kind that its first token announces. -/
def statementBody (policy : RedeclarationPolicy) (inner : Parse Statement) :
    Parse Statement := do
  if ← check (.keyword .readWord) then readStatement
  else if ← check (.keyword .writeWord) then writeStatement
  else if ← check (.keyword .ifWord) then conditionalStatement inner
  else if ← check (.keyword .whileWord) then loopStatement policy inner
  else if ← check (.operator .leftBrace) then blockStatement policy inner
  else expressionStatement

/-- Skips a statement that is nested too deep, and fails at its first token. -/
def tooDeep : Parse Statement := do
  let found ← peek
  skipStatement
  throw (.rejected ⟨.tooDeep maxNesting, found⟩)

/-- A statement with a number of levels to spare. -/
def statementWithin (policy : RedeclarationPolicy) : Nat → Parse Statement
  | 0 => tooDeep
  | levels + 1 => nested (statementBody policy (statementWithin policy levels))

/-- A statement; the statements that are open around it count against the limit. -/
def statement (policy : RedeclarationPolicy) : Parse Statement := do
  statementWithin policy (maxNesting - (← get).nesting)

/-- A declaration or a statement, where the statements that are open count against the limit. -/
def item (policy : RedeclarationPolicy) : Parse (Option Statement) :=
  declarationOrStatement policy (statement policy)

/-- A block, where the statements that are open count against the limit. -/
def block (policy : RedeclarationPolicy) : Parse Statement :=
  blockStatement policy (statement policy)

/-! ## Programs -/

/-- All declarations and statements, from the beginning of the stream to the end of the input. -/
def program (policy : RedeclarationPolicy) : Parse (List Statement) := do
  modify fun state => { state with stream := state.stream.rewound, nesting := 0 }
  let statements ← repeatUntil TokenStream.atEnd (item policy)
  note (.parsed statements.length)
  return statements

end Parse

end NumericLanguage
