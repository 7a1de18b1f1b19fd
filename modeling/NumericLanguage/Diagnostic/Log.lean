import NumericLanguage.Diagnostic.Basic
import NumericLanguage.Source.Bounds

/-!
# Logs of diagnostics

A log is the list of the diagnostics recorded so far, the oldest first. Recording adds at the
end and nothing is ever removed, so that every earlier log is a beginning of every later one.
-/

set_option autoImplicit false

namespace NumericLanguage

/-- The diagnostics recorded so far, the oldest first. -/
abbrev DiagnosticLog := List Diagnostic

namespace DiagnosticLog

/-- The log after one more diagnostic. -/
def record (log : DiagnosticLog) (diagnostic : Diagnostic) : DiagnosticLog :=
  log ++ [diagnostic]

/-- The recorded errors. -/
def errors (log : DiagnosticLog) : List Diagnostic := log.filter Diagnostic.isError

/-- The recorded warnings. -/
def warnings (log : DiagnosticLog) : List Diagnostic := log.filter Diagnostic.isWarning

/-- The recorded diagnostics of one category. -/
def ofCategory (log : DiagnosticLog) (category : Category) : List Diagnostic :=
  log.filter fun diagnostic => diagnostic.category = category

/-- Whether an error was recorded. -/
def hasErrors (log : DiagnosticLog) : Bool := log.any Diagnostic.isError

/-- The diagnostic at an index; a negative index counts from the end. -/
def entry (log : DiagnosticLog) (index : Int) : Except OutOfRange Diagnostic :=
  entryAt log index

/-- All diagnostics in printed form, one after the other. -/
def text (log : DiagnosticLog) : String :=
  String.join (log.map Diagnostic.text)

/-- The number of errors and of warnings. -/
def summary (log : DiagnosticLog) : String :=
  "DiagnosticSink(" ++ toString log.errors.length ++ " errors, " ++
    toString log.warnings.length ++ " warnings)"

theorem prefix_record (log : DiagnosticLog) (diagnostic : Diagnostic) :
    log <+: log.record diagnostic :=
  List.prefix_append log [diagnostic]

end DiagnosticLog

end NumericLanguage
