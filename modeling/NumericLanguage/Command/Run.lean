import NumericLanguage.Command.Arguments
import NumericLanguage.Analysis.Basic
import NumericLanguage.File.Contents
import NumericLanguage.Scope.Display

/-!
# Running the command

The command analyses a file, or a built-in program if none is given. It writes the statements to
its output, on demand the tokens before them and the declarations after them. The events of note
and then the diagnostics go to the error output. The status is 0 for a program without errors, 1
for one with errors, and 2 if the arguments make no sense or the file cannot be opened.
-/

set_option autoImplicit false

namespace NumericLanguage.Command

/-- The program that is analysed when no file is given. -/
def sampleProgram : String :=
  "/* Sample program */\n" ++
  "long _x;\n" ++
  "long _y;\n" ++
  "double _avg;\n" ++
  "\n" ++
  "read(_x);\n" ++
  "read(_y);\n" ++
  "\n" ++
  "if (_x > _y) then\n" ++
  "    _avg = (_x + _y) / 2;\n" ++
  "else\n" ++
  "    _avg = (_y - _x) / 2;\n" ++
  "\n" ++
  "write(_avg);\n" ++
  "\n" ++
  "// End of program\n"

/-! ## Outcomes -/

/-- Why the command ends without a status. -/
inductive Collapse
  | path (fault : PathFault)
  | undecodable (fault : Text.DecodeFault)
  | failed (failure : Failure)
  deriving DecidableEq, Repr

/-- What the command has written, and its status. -/
structure Outcome where
  output : String
  errors : String
  status : Except Collapse Nat

/-! ## Rendering -/

/-- The lines of a list of texts, each with its newline. -/
def lines (texts : List String) : String := String.join (texts.map fun text => text ++ "\n")

/-- Whether an event is written to the error output. -/
def isShown (verbose : Bool) (event : Event) : Bool :=
  match event.level with
  | .debug => false
  | .info => verbose
  | .warning => true

/-- What is written about the events of an analysis. -/
def renderJournal (verbose : Bool) (journal : List Event) : String :=
  lines ((journal.filter (isShown verbose)).map Event.message)

/-- What is written about the diagnostics of an analysis. -/
def renderDiagnostics (diagnostics : DiagnosticLog) : String :=
  if diagnostics.isEmpty then ""
  else
    "Found " ++ toString diagnostics.errors.length ++ " error(s), " ++
      toString diagnostics.warnings.length ++ " warning(s):\n" ++ diagnostics.text

/-- What is written about the tokens. -/
def renderTokens (report : Report) : String :=
  "=== TOKENS ===\n" ++ lines (report.tokens.map Token.shortText) ++ "\n"

/-- What is written about the statements, if there was any parsing. -/
def renderStatements (report : Report) : String :=
  if report.parsed then
    "=== PROGRAM STRUCTURE ===\n" ++ lines (report.statements.map Statement.text)
  else ""

/-- What is written about the declarations. -/
def renderSymbols (report : Report) : String := "\n" ++ report.table.display ++ "\n"

/-- What a report looks like. -/
def render (settings : Settings) (report : Report) : Outcome where
  output :=
    (if settings.showTokens then renderTokens report else "") ++ renderStatements report ++
      (if settings.showSymbols then renderSymbols report else "")
  errors :=
    renderJournal settings.verbose report.journal ++ renderDiagnostics report.diagnostics
  status := .ok (if report.hasErrors then 1 else 0)

/-! ## Running -/

/-- The options of the analysis of a text with a given name. -/
def Settings.options (settings : Settings) (file : String) : AnalysisOptions where
  file := file
  redeclarations := {
    asErrors := settings.warnings = .error
    reported := settings.warnings ≠ .ignore }
  stopAfterLexicalErrors := settings.stopOnLexicalErrors

/-- Analyses a text with a given name. -/
def runOn (settings : Settings) (file source : String) : Outcome :=
  match analyze (settings.options file) source with
  | .ok report => render settings report
  | .error failure => ⟨"", "", .error (.failed failure)⟩

/-- Analyses the chosen file, or the built-in program. -/
def runSettings (settings : Settings) (files : FileAccess) : Outcome :=
  match settings.file with
  | none => runOn settings "<sample>" sampleProgram
  | some path =>
      match readText files path with
      | .ok source => runOn settings path source
      | .error (.access fault) =>
          ⟨"", "numlang: cannot read " ++ path ++ ": " ++ fault.reason ++ "\n", .ok 2⟩
      | .error (.path fault) => ⟨"", "", .error (.path fault)⟩
      | .error (.undecodable fault) => ⟨"", "", .error (.undecodable fault)⟩

/-- Runs the command. -/
def run (arguments : List String) (files : FileAccess) : Outcome :=
  match readArguments arguments with
  | .error fault => ⟨"", fault.text, .ok 2⟩
  | .ok .help => ⟨helpText, "", .ok 0⟩
  | .ok (.analyze settings) => runSettings settings files

end NumericLanguage.Command
