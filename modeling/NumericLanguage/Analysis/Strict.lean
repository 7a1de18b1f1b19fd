import NumericLanguage.Analysis.Basic

/-!
# Strict parsing

A text is parsed strictly when the first error in it refuses the whole text. Errors of the tokens
come before all others.
-/

set_option autoImplicit false

namespace NumericLanguage

/-- Why a text is refused as a whole. -/
inductive Refusal
  /-- The first error that was found. -/
  | diagnosed (diagnostic : Diagnostic)
  /-- Parsing failed altogether. -/
  | failed (failure : Failure)
  deriving DecidableEq, Repr

/-- The category of the error that stands for a diagnostic of parsing: what is not about names and
types is about grammar. -/
def parsingCategory (diagnostic : Diagnostic) : Category :=
  if diagnostic.category = .semantic then .semantic else .syntactic

/-- The statements of a text without errors; otherwise the first error in it, stated as one of the
part of the language that it is about. -/
def parseStrictly (file : String) (source : String) : Except Refusal (List Statement) :=
  match tokenizeStrictly file source with
  | .error diagnostic => .error (.diagnosed diagnostic)
  | .ok tokens =>
      match Parse.program {} (.ofTokens tokens) with
      | .error failure _ => .error (.failed failure)
      | .ok statements state =>
          match state.diagnostics.errors with
          | first :: _ => .error (.diagnosed (first.restatedAs (parsingCategory first)))
          | [] => .ok statements

end NumericLanguage
