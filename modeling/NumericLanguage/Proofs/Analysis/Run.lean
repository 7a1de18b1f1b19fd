import NumericLanguage.Analysis.Basic
import NumericLanguage.Proofs.Analysis.Tokens
import NumericLanguage.Proofs.Reading.Program
import NumericLanguage.Proofs.Reading.Diagnostics

/-!
# Runs of an analysis

The tokens of a text have readings (`exists_reads_of_source`), so that an analysis always has a
report. It either holds the effect of the readings on the diagnostics about the tokens
(`analyze_of_reads`), or nothing beyond these diagnostics (`analyze_of_stop`).
-/

set_option autoImplicit false

namespace NumericLanguage

open Parse ParseState

/-! ## Reports -/

namespace AnalysisOptions

variable (options : AnalysisOptions) (source : String)

/-- What an analysis has found when parsing begins. -/
def begun : Findings where
  table := .empty
  diagnostics := (tokenize options.file source).diagnostics
  journal := Event.tokenizing options.file ::
    (tokenize options.file source).events options.file ++ [.parsing options.file]

/-- The statements and the findings of a text with given readings. -/
def outcome (readings : List ParseTree) : List Statement × Findings :=
  ParseTree.effectAll options.redeclarations readings (options.begun source)

/-- The report on a text with given readings. -/
def parsedReport (readings : List ParseTree) : Report where
  tokens := (tokenize options.file source).tokens
  statements := (options.outcome source readings).1
  diagnostics := (options.outcome source readings).2.diagnostics
  table := (options.outcome source readings).2.table
  options := options
  parsed := true
  journal := (options.outcome source readings).2.journal ++
    [.parsed (options.outcome source readings).1.length] ++
    [.analysed options.file (options.outcome source readings).2.diagnostics.errors.length
      (options.outcome source readings).2.diagnostics.warnings.length]

/-- The report on a text that is not parsed. -/
def stoppedReport : Report where
  tokens := (tokenize options.file source).tokens
  statements := []
  diagnostics := (tokenize options.file source).diagnostics
  table := .empty
  options := options
  parsed := false
  journal := Event.tokenizing options.file ::
    (tokenize options.file source).events options.file ++ [.parsingSkipped]

/-- Whether the tokens are parsed. -/
def Parses : Prop :=
  options.stopAfterLexicalErrors = false ∨ (tokenize options.file source).diagnostics = []

/-- Behind the diagnostics about the tokens, those of parsing are recorded. -/
theorem exists_added (readings : List ParseTree) :
    ∃ added, (options.outcome source readings).2.diagnostics =
        (tokenize options.file source).diagnostics ++ added ∧
      ∀ diagnostic ∈ added, diagnostic.OfParsing options.redeclarations :=
  ParseTree.effectAll_extends options.redeclarations readings (options.begun source)

end AnalysisOptions

/-! ## Analyses -/

/-- The tokens of every text have readings. -/
theorem exists_reads_of_source (file source : String) :
    ∃ readings final, ReadsProgram (.ofTokens (tokenize file source).tokens) readings final := by
  apply exists_reads_of_namesType
  intro token inside
  have before : token ∈ programTokens (tokenize file source).tokens := inside
  exact namesType_of_mem_tokenize ((List.takeWhile_prefix _).subset before)

section Analyses

variable {options : AnalysisOptions} {source : String} {readings : List ParseTree}
  {final : TokenStream}

/-- **A text is analysed as it is read.** -/
theorem analyze_of_reads
    (reads : ReadsProgram (.ofTokens (tokenize options.file source).tokens) readings final)
    (parses : options.Parses source) :
    analyze options source = .ok (options.parsedReport source readings) := by
  have goesOn : ¬ (options.stopAfterLexicalErrors = true ∧
      (tokenize options.file source).diagnostics ≠ []) := by
    rintro ⟨stops, malformed⟩
    rcases parses with parsesAlways | wellFormed
    · rw [parsesAlways] at stops
      cases stops
    · exact malformed wellFormed
  have run := program_of_reads reads options.redeclarations 0 (options.begun source)
  have begins : ({ ParseState.ofTokens (tokenize options.file source).tokens with
      diagnostics := (tokenize options.file source).diagnostics
      journal := Event.tokenizing options.file ::
        (tokenize options.file source).events options.file ++ [.parsing options.file] } :
      ParseState) =
    place (.ofTokens (tokenize options.file source).tokens) 0 (options.begun source) := rfl
  simp only [analyze, if_neg goesOn]
  rw [begins, run]
  rfl

/-- A text with malformed elements is not parsed when this is asked for. -/
theorem analyze_of_stop (stops : ¬ options.Parses source) :
    analyze options source = .ok (options.stoppedReport source) := by
  have stopped : options.stopAfterLexicalErrors = true ∧
      (tokenize options.file source).diagnostics ≠ [] := by
    refine ⟨?_, fun wellFormed => stops (.inr wellFormed)⟩
    exact Bool.of_not_eq_false fun parsesAlways => stops (.inl parsesAlways)
  simp only [analyze, if_pos stopped]
  rfl

end Analyses

end NumericLanguage
