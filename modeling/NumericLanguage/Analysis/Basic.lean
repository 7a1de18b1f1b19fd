import NumericLanguage.Statement.Rules

/-!
# Analysing a program text

An analysis cuts a text into tokens and parses them with an empty log of diagnostics and an empty
table of scopes, so that analyses share nothing. On demand it stops after tokens that could not
all be read. Its report holds everything that was found, and the journal of how.
-/

set_option autoImplicit false

namespace NumericLanguage

/-- What can be chosen for an analysis. -/
structure AnalysisOptions where
  /-- The name of the text, which every location repeats. -/
  file : String := "<string>"
  redeclarations : RedeclarationPolicy := {}
  /-- Whether a text with malformed elements is left unparsed. -/
  stopAfterLexicalErrors : Bool := false
  deriving DecidableEq, Repr

/-- What an analysis has found. -/
structure Report where
  tokens : List Token
  statements : List Statement
  diagnostics : DiagnosticLog
  table : ScopeTable
  options : AnalysisOptions
  /-- Whether the tokens were parsed. -/
  parsed : Bool
  journal : List Event
  deriving Repr

namespace Report

/-- Whether an error was found. -/
def hasErrors (report : Report) : Bool := report.diagnostics.hasErrors

/-- Whether a warning was found. -/
def hasWarnings (report : Report) : Bool := !report.diagnostics.warnings.isEmpty

end Report

/-- The events of cutting a text into tokens. -/
def Tokenization.events (result : Tokenization) (file : String) : List Event :=
  result.diagnostics.map Event.recorded ++ [.tokenized file result.tokens.length]

/-- Analyses a program text. -/
def analyze (options : AnalysisOptions) (source : String) : Except Failure Report :=
  let result := tokenize options.file source
  let journal := Event.tokenizing options.file :: result.events options.file
  if options.stopAfterLexicalErrors ∧ result.diagnostics ≠ [] then
    .ok {
      tokens := result.tokens
      statements := []
      diagnostics := result.diagnostics
      table := .empty
      options := options
      parsed := false
      journal := journal ++ [.parsingSkipped] }
  else
    let state := {
      ParseState.ofTokens result.tokens with
      diagnostics := result.diagnostics
      journal := journal ++ [.parsing options.file] }
    match Parse.program options.redeclarations state with
    | .error failure _ => .error failure
    | .ok statements state =>
        let found := state.diagnostics
        .ok {
          tokens := result.tokens
          statements := statements
          diagnostics := found
          table := state.table
          options := options
          parsed := true
          journal := state.journal ++
            [.analysed options.file found.errors.length found.warnings.length] }

end NumericLanguage
