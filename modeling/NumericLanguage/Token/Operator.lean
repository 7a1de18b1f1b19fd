/-!
# Operators and punctuation

The signs of the language, of one or two characters. Inequality has two spellings, every other
sign has one.
-/

set_option autoImplicit false

namespace NumericLanguage

/-- An operator or a punctuation mark. -/
inductive Operator
  | plus
  | minus
  | times
  | divide
  | assign
  | plusAssign
  | minusAssign
  | timesAssign
  | divideAssign
  | equal
  | notEqual
  | less
  | greater
  | lessEqual
  | greaterEqual
  | logicalAnd
  | logicalOr
  | logicalNot
  | leftParen
  | rightParen
  | leftBrace
  | rightBrace
  | semicolon
  deriving DecidableEq, Repr

namespace Operator

/-- All operators. -/
def all : List Operator :=
  [plus, minus, times, divide, assign, plusAssign, minusAssign, timesAssign, divideAssign, equal,
    notEqual, less, greater, lessEqual, greaterEqual, logicalAnd, logicalOr, logicalNot,
    leftParen, rightParen, leftBrace, rightBrace, semicolon]

/-- Every spelling with the operator that it stands for. -/
def spellings : List (List Char × Operator) :=
  [(['+'], plus), (['-'], minus), (['*'], times), (['/'], divide), (['='], assign),
    (['+', '='], plusAssign), (['-', '='], minusAssign), (['*', '='], timesAssign),
    (['/', '='], divideAssign), (['=', '='], equal), (['!', '='], notEqual),
    (['<', '>'], notEqual), (['<'], less), (['>'], greater), (['<', '='], lessEqual),
    (['>', '='], greaterEqual), (['&', '&'], logicalAnd), (['|', '|'], logicalOr),
    (['!'], logicalNot), (['('], leftParen), ([')'], rightParen), (['{'], leftBrace),
    (['}'], rightBrace), ([';'], semicolon)]

/-- The operator with a given spelling. -/
def ofSpelling? (text : List Char) : Option Operator :=
  spellings.lookup text

/-- The printed name of an operator. -/
def name : Operator → String
  | plus => "PLUS"
  | minus => "MINUS"
  | times => "MULTIPLY"
  | divide => "DIVIDE"
  | assign => "ASSIGN"
  | plusAssign => "PLUS_ASSIGN"
  | minusAssign => "MINUS_ASSIGN"
  | timesAssign => "MULTIPLY_ASSIGN"
  | divideAssign => "DIVIDE_ASSIGN"
  | equal => "EQUAL"
  | notEqual => "NOT_EQUAL"
  | less => "LESS_THAN"
  | greater => "GREATER_THAN"
  | lessEqual => "LESS_EQUAL"
  | greaterEqual => "GREATER_EQUAL"
  | logicalAnd => "LOGICAL_AND"
  | logicalOr => "LOGICAL_OR"
  | logicalNot => "LOGICAL_NOT"
  | leftParen => "LEFT_PAREN"
  | rightParen => "RIGHT_PAREN"
  | leftBrace => "LEFT_BRACE"
  | rightBrace => "RIGHT_BRACE"
  | semicolon => "SEMICOLON"

end Operator

end NumericLanguage
