import NumericLanguage.Proofs.Grammar.Derivation

/-!
# Checking a derivation tree

The rules about names and types, stated over a finished derivation tree. A walk goes through the
tree in source order with a plain lexically scoped environment, a stack of frames with the innermost
first, and with the diagnostics found so far. Nothing of it is intertwined with reading tokens: each
node is checked in the environment in front of it.
-/

set_option autoImplicit false

namespace NumericLanguage

/-! ## Environments -/

/-- What a declaration binds its name to. -/
structure Binding where
  name : String
  type : ValueType
  line : Int
  location : Location
  value : Option Literal
  deriving DecidableEq

/-- The frames of the open blocks, the innermost first, each with its oldest binding first. -/
abbrev Environment := List (List Binding)

namespace Environment

variable (environment : Environment)

/-- The binding of a name in one frame. -/
def inFrame (frame : List Binding) (name : String) : Option Binding :=
  frame.find? fun binding => binding.name = name

/-- The innermost binding of a name. -/
def lookup (name : String) : Option Binding :=
  environment.findSome? fun frame => inFrame frame name

/-- The binding of a name in the innermost frame. -/
def lookupInnermost (name : String) : Option Binding :=
  environment.head?.bind fun frame => inFrame frame name

/-- The environment with one more binding in the innermost frame. -/
def extend (binding : Binding) : Environment :=
  match environment with
  | [] => []
  | frame :: outer => (frame ++ [binding]) :: outer

/-- A token that makes an expression a double: a real literal, or a name bound as double. -/
def makesDouble (token : Token) : Bool :=
  token.kind = .real || token.kind = .identifier &&
    (environment.lookup token.lexeme).any fun binding => binding.type = .double

/-- The type of an expression. -/
def typeOf (expression : List Token) : ValueType :=
  if expression.any fun token => token.kind = .string then .string
  else if expression.any environment.makesDouble then .double
  else .long

end Environment

/-! ## Walks -/

/-- Where a walk stands: the bindings in force, and the diagnostics so far. -/
structure Walk where
  environment : Environment
  diagnostics : List Diagnostic

namespace Walk

variable (walk : Walk)

/-- The beginning of a walk, in one empty frame. -/
def start : Walk := ⟨[[]], []⟩

def report (fault : SemanticFault) (token : Token) : Walk :=
  { walk with diagnostics := walk.diagnostics ++ [fault.diagnostic token.location] }

/-- A name that is used has to be bound. -/
def use (name : Token) : Walk :=
  match walk.environment.lookup name.lexeme with
  | some _ => walk
  | none => walk.report (.undeclared name.lexeme) name

/-- Only the leading name of a written expression has to be bound. -/
def useLeading : List Token → Walk
  | first :: _ => if first.kind = .identifier then walk.use first else walk
  | [] => walk

/-- A condition must not be a string. -/
def checkCondition (keyword : Token) (condition : List Token) : Walk :=
  if walk.environment.typeOf condition = .string then
    walk.report (.nonNumericCondition .string) (condition.head?.getD keyword)
  else walk

/-- The target of an assignment has to be bound, and one bound as long takes no double. -/
def assign (target : Token) (value : List Token) : Walk :=
  match walk.environment.lookup target.lexeme with
  | none => walk.report (.undeclared target.lexeme) target
  | some binding =>
      if binding.type = .long ∧ walk.environment.typeOf value = .double then
        walk.report (.narrowing target.lexeme .long .double) target
      else walk

/-- A declaration binds its name, unless the innermost frame binds it already. -/
def declare (policy : RedeclarationPolicy) (typeToken name : Token) (type : ValueType)
    (initial : List Token) : Walk :=
  match walk.environment.lookupInnermost name.lexeme with
  | none =>
      { walk with
        environment := walk.environment.extend ⟨name.lexeme, type, typeToken.location.line,
          name.location, (Parse.initialValue initial).join⟩ }
  | some existing =>
      if policy.reported then
        { walk with
          diagnostics := walk.diagnostics ++
            [(SemanticFault.redeclared name.lexeme existing.line).diagnosticAs policy.severity
              name.location] }
      else walk

/-- A block begins with an empty frame. -/
def push : Walk := { walk with environment := [] :: walk.environment }

/-- A block takes its frame with it. -/
def pop : Walk := { walk with environment := walk.environment.tail }

end Walk

namespace SyntaxTree

variable (policy : RedeclarationPolicy)

mutual
/-- The typed record of a tree, and the walk behind it. -/
def check : SyntaxTree → Walk → Statement × Walk
  | declaration typeToken name type initial, walk =>
      let declared := walk.declare policy typeToken name type (initial.getD [])
      ((Heading.declaration typeToken name initial).toStatement
        (initial.map declared.environment.typeOf) [], declared)
  | read keyword name, walk =>
      ((Heading.read keyword name).toStatement
        ((walk.environment.lookup name.lexeme).map Binding.type) [], walk.use name)
  | write keyword tokens, walk =>
      ((Heading.write keyword tokens).toStatement (some (walk.environment.typeOf tokens)) [],
        walk.useLeading tokens)
  | ifThen keyword condition consequence, walk =>
      let first := consequence.check (walk.checkCondition keyword condition)
      ((Heading.ifThen keyword condition).toStatement (some (walk.environment.typeOf condition))
        [first.1], first.2)
  | ifThenElse keyword condition consequence alternative, walk =>
      let first := consequence.check (walk.checkCondition keyword condition)
      let second := alternative.check first.2
      ((Heading.ifThenElse keyword condition).toStatement
        (some (walk.environment.typeOf condition)) [first.1, second.1], second.2)
  | loop keyword condition body, walk =>
      let inside := body.check walk
      ((Heading.loop keyword condition).toStatement (some (walk.environment.typeOf condition))
        [inside.1], inside.2)
  | block opening items, walk =>
      let inside := checkAll items walk.push
      ((Heading.block opening).toStatement none inside.1, inside.2.pop)
  | expression tokens semicolon, walk =>
      match Parse.assignment? tokens with
      | some (target, value) =>
          ((Heading.expression tokens semicolon).toStatement
            (some (walk.environment.typeOf value)) [], walk.assign target value)
      | none =>
          ((Heading.expression tokens semicolon).toStatement
            (if tokens.isEmpty then none else some (walk.environment.typeOf tokens)) [], walk)

/-- The typed records of some trees, and the walk behind them. -/
def checkAll : List SyntaxTree → Walk → List Statement × Walk
  | [], walk => ([], walk)
  | tree :: others, walk =>
      let first := tree.check walk
      let second := checkAll others first.2
      (first.1 :: second.1, second.2)
end

end SyntaxTree

end NumericLanguage
