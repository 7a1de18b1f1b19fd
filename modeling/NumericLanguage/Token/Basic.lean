import NumericLanguage.Source.Position
import NumericLanguage.Token.Kind
import NumericLanguage.Token.Literal

/-!
# Tokens

A token is a piece of program text with its kind, the value it decodes to, and the location of
its first character.
-/

set_option autoImplicit false

namespace NumericLanguage

/-- A piece of program text. -/
structure Token where
  kind : TokenKind
  lexeme : String
  value : Option Literal
  location : Location
  deriving DecidableEq, Repr

namespace Token

/-- The short text of a token: kind, lexeme and place, and the value of anything but an
identifier. -/
def shortText (token : Token) : String :=
  let place := token.kind.name ++ "(" ++ Text.quoted token.lexeme ++ ")@" ++
    toString token.location.line ++ ":" ++ toString token.location.column
  match token.value with
  | some value => if token.kind = .identifier then place else place ++ " " ++ value.shown
  | none => place

/-- The long text of a token: all its parts. -/
def longText (token : Token) : String :=
  let location := token.location
  let value := match token.value with
    | some value => value.shown
    | none => "None"
  "Token(" ++ token.kind.name ++ ", " ++ Text.quoted token.lexeme ++ ", " ++ value ++
    ", SourceLocation(" ++ Text.quoted location.file ++ ", " ++ toString location.line ++ ", " ++
    toString location.column ++ ", " ++ toString location.offset ++ "))"

/-- The lexemes of a run of tokens, a space between each two. -/
def spelledOut (tokens : List Token) : String :=
  " ".intercalate (tokens.map Token.lexeme)

end Token

end NumericLanguage
