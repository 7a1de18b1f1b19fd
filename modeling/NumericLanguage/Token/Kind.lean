import NumericLanguage.Token.Keyword
import NumericLanguage.Token.Operator

/-!
# Kinds of tokens

A token is the end of the input, a literal, an identifier, a keyword or an operator. The two
truth values are keywords and literals at once.
-/

set_option autoImplicit false

namespace NumericLanguage

/-- The kind of a token. -/
inductive TokenKind
  | endOfInput
  | integer
  | real
  | string
  | identifier
  | keyword (word : Keyword)
  | operator (sign : Operator)
  deriving DecidableEq, Repr

namespace TokenKind

/-- All kinds, in the order in which they are numbered. -/
def all : List TokenKind :=
  [endOfInput, integer, real, string, keyword .trueWord, keyword .falseWord, identifier] ++
    (Keyword.all.take 9).map keyword ++ Operator.all.map operator

/-- The number of a kind, from one. -/
def number (kind : TokenKind) : Nat := all.idxOf kind + 1

/-- The printed name of a kind. -/
def name : TokenKind → String
  | endOfInput => "EOF"
  | integer => "INTEGER"
  | real => "REAL"
  | string => "STRING"
  | identifier => "IDENTIFIER"
  | keyword word => word.name
  | operator sign => sign.name

/-- The kind with a given printed name. -/
def ofName? (text : String) : Option TokenKind :=
  all.find? fun kind => kind.name = text

/-! ## Classes of kinds -/

/-- A token that stands for a value. -/
def isLiteral : TokenKind → Bool
  | integer | real | string | keyword .trueWord | keyword .falseWord => true
  | _ => false

/-- A token that stands for a number. -/
def isNumericLiteral : TokenKind → Bool
  | integer | real => true
  | _ => false

/-- A reserved word. -/
def isKeyword : TokenKind → Bool
  | keyword _ => true
  | _ => false

/-- An operator or a punctuation mark. -/
def isOperator : TokenKind → Bool
  | operator _ => true
  | _ => false

/-- A name of the type of a declared variable. -/
def isTypeName : TokenKind → Bool
  | keyword .longType | keyword .doubleType => true
  | _ => false

/-- A keyword that begins a statement or a declaration; recovery resumes there. -/
def startsStatement : TokenKind → Bool
  | keyword .ifWord | keyword .whileWord | keyword .readWord | keyword .writeWord
  | keyword .longType | keyword .doubleType => true
  | _ => false

/-- A plain or compound assignment sign. -/
def isAssignment : TokenKind → Bool
  | operator .assign | operator .plusAssign | operator .minusAssign | operator .timesAssign
  | operator .divideAssign => true
  | _ => false

/-- A sign that ends an expression, unless parentheses opened within it are still open. -/
def endsExpression : TokenKind → Bool
  | operator .rightParen | operator .semicolon | operator .rightBrace => true
  | _ => false

theorem mem_all (kind : TokenKind) : kind ∈ all := by
  rcases kind with _ | _ | _ | _ | _ | word | sign
  all_goals first | decide | (cases word <;> decide) | (cases sign <;> decide)

end TokenKind

end NumericLanguage
