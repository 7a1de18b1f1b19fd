import NumericLanguage.Token.Basic
import NumericLanguage.Diagnostic.Basic

/-!
# Violated grammar

The ways in which tokens fail to form a statement. A fault and the token that was found instead
of what the grammar asks for are a rejection; it has a code, a message and a word of help, and
makes a diagnostic at the place of that token.
-/

set_option autoImplicit false

namespace NumericLanguage

namespace TokenKind

/-- A kind of tokens as a reader would name it. -/
def description : TokenKind → String
  | operator .semicolon => "';'"
  | operator .leftParen => "'('"
  | operator .rightParen => "')'"
  | operator .leftBrace => "'\x7b'"
  | operator .rightBrace => "'\x7d'"
  | keyword .thenWord => "'then'"
  | identifier => "an identifier"
  | endOfInput => "end of input"
  | kind => kind.name

/-- What to add where a token of this kind is missing. -/
def suggestion : TokenKind → Option String
  | operator .semicolon => some "Add a semicolon ';' to end the statement"
  | operator .leftParen => some "Add an opening parenthesis '('"
  | operator .rightParen => some "Add a closing parenthesis ')'"
  | operator .leftBrace => some "Add an opening brace '\x7b' to start a block"
  | operator .rightBrace => some "Add a closing brace '\x7d'"
  | keyword .thenWord => some "Add 'then' after the if condition"
  | identifier => some "Add a variable name"
  | _ => none

end TokenKind

/-- Why tokens form no statement. -/
inductive SyntaxFault
  /-- A token of this kind has to stand in the given context. -/
  | expected (kind : TokenKind) (context : String)
  /-- The block that was opened at this place is not closed. -/
  | unclosedBlock (opening : Location)
  /-- More statements than this are open at once. -/
  | tooDeep (limit : Int)
  deriving DecidableEq, Repr

/-- A fault, and the token that was found where it was noticed. -/
structure Rejection where
  fault : SyntaxFault
  found : Token
  deriving DecidableEq, Repr

namespace SyntaxFault

/-- The codes of violated grammar and what each stands for. -/
def codes : List (String × String) :=
  [("P001", "Unexpected token"), ("P004", "Unclosed block"), ("P005", "Nesting too deep")]

/-- The code of a fault. -/
def code : SyntaxFault → String
  | expected _ _ => "P001"
  | unclosedBlock _ => "P004"
  | tooDeep _ => "P005"

/-- How to mend a fault. -/
def help : SyntaxFault → Option String
  | expected kind _ => kind.suggestion
  | unclosedBlock opening => some ("The block opened at " ++ opening.text ++ " was never closed.")
  | tooDeep _ => some "Split deeply nested blocks and conditionals into flatter code."

/-- Whether parsing has to look for the next statement after a fault. The statement that is
nested too deep has already been skipped as a whole. -/
def needsRecovery : SyntaxFault → Bool
  | tooDeep _ => false
  | _ => true

end SyntaxFault

namespace Rejection

/-- The found token as a reader would name it. -/
def foundText (found : Token) : String :=
  if found.kind = .endOfInput then found.kind.description else "'" ++ found.lexeme ++ "'"

/-- The rejection in words. -/
def message (rejection : Rejection) : String :=
  match rejection.fault with
  | .expected kind context =>
      "syntactic error: expected " ++ kind.description ++ " " ++ context ++ ", found " ++
        foundText rejection.found
  | .unclosedBlock _ => "syntactic error: missing '\x7d' to close the block"
  | .tooDeep limit =>
      "syntactic error: statements nested more than " ++ toString limit ++ " levels deep"

/-- The diagnostic of a rejection, at the found token. -/
def diagnostic (rejection : Rejection) : Diagnostic where
  message := rejection.message
  location := rejection.found.location
  severity := .error
  category := .syntactic
  code := some rejection.fault.code
  help := rejection.fault.help

end Rejection

end NumericLanguage
