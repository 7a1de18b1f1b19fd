import NumericLanguage.Diagnostic.Basic
import NumericLanguage.Scope.ValueType

/-!
# The journal of an analysis

While a program is analysed, the events of note are written down in order: the stages of the
analysis, every recorded diagnostic, and what happens to the scopes. An event has a level, the
channel of the part that reports it, and a message.
-/

set_option autoImplicit false

namespace NumericLanguage

/-- How much an event matters. -/
inductive Level
  | debug
  | info
  | warning
  deriving DecidableEq, Repr

/-- The name of a level. -/
def Level.name : Level → String
  | debug => "DEBUG"
  | info => "INFO"
  | warning => "WARNING"

/-- An event of note during an analysis. -/
inductive Event
  /-- The text with this name is about to be cut into tokens. -/
  | tokenizing (file : String)
  /-- The text has been cut into this many tokens. -/
  | tokenized (file : String) (count : Nat)
  /-- Parsing is left out because of lexical diagnostics. -/
  | parsingSkipped
  /-- The tokens of this text are about to be parsed. -/
  | parsing (file : String)
  /-- Parsing has found this many statements at the top. -/
  | parsed (count : Nat)
  /-- The analysis of this text has ended with so many errors and warnings. -/
  | analysed (file : String) (errors warnings : Nat)
  | recorded (diagnostic : Diagnostic)
  | scopeEntered (scope : String)
  | scopeLeft (scope : String)
  | declared (name : String) (type : ValueType) (scope : String)
  | redeclared (line : Int) (name : String)
  deriving DecidableEq, Repr

namespace Event

/-- How much an event matters. -/
def level : Event → Level
  | tokenized _ _ | parsed _ | recorded _ => .debug
  | redeclared _ _ => .warning
  | _ => .info

/-- The part that reports an event. -/
def channel : Event → String
  | tokenizing _ | parsingSkipped | parsing _ | analysed _ _ _ => "numlang.frontend"
  | tokenized _ _ => "numlang.lexer.lexer"
  | recorded _ => "numlang.lexer.errors"
  | parsed _ | redeclared _ _ => "numlang.parser.parser"
  | scopeEntered _ | scopeLeft _ | declared _ _ _ => "numlang.analyzer.symbol_table"

/-- An event in words. -/
def message : Event → String
  | tokenizing file => "Lexing " ++ file ++ "..."
  | tokenized file count => "tokenized " ++ file ++ ": " ++ toString count ++ " tokens"
  | parsingSkipped => "Lexical errors found, skipping parse"
  | parsing file => "Parsing " ++ file ++ "..."
  | parsed count => "parsed " ++ toString count ++ " top-level statements"
  | analysed file errors warnings =>
      file ++ ": " ++ toString errors ++ " errors, " ++ toString warnings ++ " warnings"
  | recorded diagnostic =>
      "diagnostic recorded: " ++ diagnostic.message ++ " at " ++ diagnostic.location.text
  | scopeEntered scope => "ENTER scope " ++ scope
  | scopeLeft scope => "LEAVE scope " ++ scope
  | declared name type scope => "Insert: " ++ name ++ " (" ++ type.name ++ ") in " ++ scope
  | redeclared line name =>
      "line " ++ toString line ++ ": variable '" ++ name ++
        "' was already declared in this scope"

end Event

end NumericLanguage
