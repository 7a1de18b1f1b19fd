import NumericLanguage.Diagnostic.Basic

/-!
# Malformed text

The ways in which a piece of program text fails to be a token. Each has a code, a message and a
word of help; together with the place they make a diagnostic.
-/

set_option autoImplicit false

namespace NumericLanguage

/-- Why a piece of text is no token. -/
inductive LexicalFault
  /-- No token begins with this text. -/
  | unexpected (text : String)
  /-- The sign is only written twice in a row. -/
  | incompleteOperator (sign : String)
  /-- The line or the whole text ends before the closing quote. -/
  | unterminatedString (reachedNewline : Bool)
  /-- The digits stand for no value of their type. -/
  | invalidNumber (lexeme reason : String)
  /-- The text ends before the comment does. -/
  | unterminatedComment
  deriving DecidableEq, Repr

namespace LexicalFault

/-- The codes of malformed text and what each stands for. -/
def codes : List (String × String) :=
  [("L001", "Invalid character"), ("L002", "Unterminated string literal"),
    ("L003", "Invalid numeric literal"), ("L004", "Unterminated block comment"),
    ("L005", "Incomplete logical operator")]

/-- The code of a fault. -/
def code : LexicalFault → String
  | unexpected _ => "L001"
  | unterminatedString _ => "L002"
  | invalidNumber _ _ => "L003"
  | unterminatedComment => "L004"
  | incompleteOperator _ => "L005"

/-- The fault in words. -/
def message : LexicalFault → String
  | unexpected text => "unexpected character: '" ++ text ++ "'"
  | incompleteOperator sign =>
      "unexpected symbol '" ++ sign ++ "', did you mean '" ++ sign ++ sign ++ "'?"
  | unterminatedString true =>
      "unterminated string literal: strings must close on the same line"
  | unterminatedString false => "unterminated string literal"
  | invalidNumber lexeme _ => "invalid numeric literal: '" ++ lexeme ++ "'"
  | unterminatedComment => "unterminated block comment"

/-- Help for text with which no token begins: a character without a visible form is named by
its code point. -/
def unexpectedHelp (text : String) : String :=
  match text.toList.find? fun c => !Text.isPrintable c with
  | none => "The character '" ++ text ++ "' is not valid in numlang source code."
  | some c => "Non-printable character (Unicode: " ++ Text.codePointName c ++ ") is not allowed."

/-- How to mend a fault. -/
def help : LexicalFault → String
  | unexpected text => unexpectedHelp text
  | incompleteOperator _ => "Logical operators are written with a doubled character."
  | unterminatedString _ => "String literals must be closed with a matching \" quote."
  | invalidNumber _ reason => reason
  | unterminatedComment => "Block comments opened with '/*' must be closed with '*/'."

/-- The diagnostic of a fault at a place. -/
def diagnostic (fault : LexicalFault) (location : Location) : Diagnostic where
  message := fault.message
  location := location
  severity := .error
  category := .lexical
  code := some fault.code
  help := some fault.help

end LexicalFault

/-! ## Naming a code point -/

/-- Several characters where the code point of one was asked for. -/
structure SeveralCharacters where
  length : Nat
  deriving DecidableEq, Repr

/-- The fault in words. -/
def SeveralCharacters.message (fault : SeveralCharacters) : String :=
  "ord() expected a character, but string of length " ++ toString fault.length ++ " found"

/-- The fault of a text with which no token begins. A text without a visible form is named by
its code point, so it must be a single character. -/
def LexicalFault.ofText (text : String) : Except SeveralCharacters LexicalFault :=
  if text.toList.all Text.isPrintable || text.length = 1 then .ok (.unexpected text)
  else .error ⟨text.length⟩

end NumericLanguage
