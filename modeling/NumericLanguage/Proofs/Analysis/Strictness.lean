import NumericLanguage.Analysis.Strict
import NumericLanguage.Proofs.Analysis.Options

/-!
# Strict and tolerant analyses

A text that is taken strictly goes through two stages with logs of their own: its tokens refuse it
before anything is parsed, and parsing begins with an empty log. A tolerant analysis writes both
stages into one log and goes on. The two find the same: strictness gives out what the report holds
as long as the report has no error, and otherwise the first error of the report
(`strict_gives_report_or_first_error`).
-/

set_option autoImplicit false

namespace NumericLanguage

open Parse ParseState

/-! ## The first errors of a text -/

section Errors

variable (file source : String) (readings : List ParseTree)

/-- Malformed text is always an error. -/
theorem errors_tokenize :
    DiagnosticLog.errors (tokenize file source).diagnostics =
      (tokenize file source).diagnostics := by
  refine List.filter_eq_self.mpr ?_
  intro diagnostic inside
  obtain ⟨fault, location, rfl⟩ := exists_fault_of_mem_tokenize inside
  rfl

/-- The first error of a text with malformed elements is the one about the first of them. -/
theorem exists_errors_outcome {first : Diagnostic} {others : List Diagnostic}
    (malformed : (tokenize file source).diagnostics = first :: others) :
    ∃ behind, DiagnosticLog.errors
        (AnalysisOptions.outcome ⟨file, {}, false⟩ source readings).2.diagnostics =
      first :: behind := by
  obtain ⟨added, split, -⟩ := AnalysisOptions.exists_added ⟨file, {}, false⟩ source readings
  have errors : DiagnosticLog.errors (first :: others) = first :: others :=
    malformed ▸ errors_tokenize file source
  refine ⟨others ++ DiagnosticLog.errors added, ?_⟩
  rw [split, malformed, DiagnosticLog.errors, List.filter_append]
  exact congrArg (· ++ _) errors

/-- Strict tokens are those of the text, unless some of it is malformed. -/
theorem tokenizeStrictly_eq :
    tokenizeStrictly file source =
      match (tokenize file source).diagnostics with
      | [] => .ok (tokenize file source).tokens
      | first :: _ => .error first := by
  simp only [tokenizeStrictly, errors_tokenize]
  cases malformed : (tokenize file source).diagnostics with
  | nil => rfl
  | cons first others =>
      have inside : first ∈ (tokenize file source).diagnostics := by simp [malformed]
      obtain ⟨fault, location, rfl⟩ := exists_fault_of_mem_tokenize inside
      exact congrArg Except.error (Diagnostic.restatedAs_self rfl rfl)

end Errors

/-! ## Parsing with a log of its own -/

/-- An error of parsing is refused as itself. -/
theorem Diagnostic.OfParsing.restatedAs_parsingCategory {policy : RedeclarationPolicy}
    {diagnostic : Diagnostic} (ofParsing : diagnostic.OfParsing policy)
    (isError : diagnostic.isError = true) :
    diagnostic.restatedAs (parsingCategory diagnostic) = diagnostic := by
  refine restatedAs_self isError ?_
  cases ofParsing <;> rfl

section Strictness

variable {file source : String} {readings : List ParseTree} {final : TokenStream}

/-- On well-formed text, parsing finds the same with a log of its own. -/
theorem outcome_of_wellFormed (readings : List ParseTree)
    (wellFormed : (tokenize file source).diagnostics = []) :
    Agree {} (ParseTree.effectAll {} readings .nothing)
      (AnalysisOptions.outcome ⟨file, {}, false⟩ source readings) :=
  ParseTree.effectAll_agrees readings ⟨rfl, wellFormed⟩

/-- **A well-formed text is parsed strictly as it is read**, up to its first error. -/
theorem parseStrictly_of_reads
    (reads : ReadsProgram (.ofTokens (tokenize file source).tokens) readings final)
    (wellFormed : (tokenize file source).diagnostics = []) :
    parseStrictly file source =
      match DiagnosticLog.errors
        (AnalysisOptions.outcome ⟨file, {}, false⟩ source readings).2.diagnostics with
      | [] => .ok (AnalysisOptions.outcome ⟨file, {}, false⟩ source readings).1
      | first :: _ => .error (.diagnosed first) := by
  have run := program_of_reads reads {} 0 .nothing
  have tokens := tokenizeStrictly_eq file source
  rw [wellFormed] at tokens
  simp only [parseStrictly, tokens]
  rw [ofTokens_eq_place, run]
  have outcomes := outcome_of_wellFormed readings wellFormed
  -- Under the default policy the two logs agree entry by entry.
  have log : (ParseTree.effectAll {} readings .nothing).2.diagnostics =
      (AnalysisOptions.outcome ⟨file, {}, false⟩ source readings).2.diagnostics :=
    outcomes.findings.diagnostics.symm
  rw [outcomes.result, ← log]
  have ofParsing := (ParseTree.effectAll_extends {} readings .nothing).ofParsing rfl
  cases errors : DiagnosticLog.errors (ParseTree.effectAll {} readings .nothing).2.diagnostics with
  | nil => simp only [diagnostics_place, Findings.note, errors]
  | cons first others =>
      have inside : first ∈ DiagnosticLog.errors
          (ParseTree.effectAll {} readings .nothing).2.diagnostics := by simp [errors]
      obtain ⟨recorded, isError⟩ := List.mem_filter.mp inside
      have same := (ofParsing first recorded).restatedAs_parsingCategory isError
      simp only [diagnostics_place, Findings.note, errors, same]

end Strictness

/-- **Strictness gives out the report, or its first error.** For every text, take the report of an
analysis with nothing chosen but the name of the text. The strict tokens are those of the report if
it holds no diagnostic about malformed text, and the strict statements are those of the report if it
holds no error. Otherwise the text is refused with the first such diagnostic, unchanged: its
message, its place, its severity, its category, its code and its help. -/
theorem strict_gives_report_or_first_error (file source : String) :
    ∃ report, analyze { file := file } source = .ok report ∧
      tokenizeStrictly file source =
        (match report.diagnostics.ofCategory .lexical with
        | [] => .ok report.tokens
        | first :: _ => .error first) ∧
      parseStrictly file source =
        (match report.diagnostics.errors with
        | [] => .ok report.statements
        | first :: _ => .error (.diagnosed first)) := by
  obtain ⟨readings, final, reads⟩ := exists_reads_of_source file source
  have report : analyze { file := file } source = _ := analyze_of_reads reads (.inl rfl)
  have lexical := ofCategory_lexical_outcome source ⟨file, {}, false⟩ readings
  refine ⟨_, report, ?_, ?_⟩
  · rw [tokenizeStrictly_eq]
    change _ = match DiagnosticLog.ofCategory
      (AnalysisOptions.outcome ⟨file, {}, false⟩ source readings).2.diagnostics .lexical with
      | [] => Except.ok (tokenize file source).tokens
      | first :: _ => .error first
    rw [lexical]
  · cases malformed : (tokenize file source).diagnostics with
    | nil => exact parseStrictly_of_reads reads malformed
    | cons first others =>
        -- The tokens refuse the text before it is parsed, with the first error of the one log.
        obtain ⟨behind, errors⟩ := exists_errors_outcome file source readings malformed
        have refused := tokenizeStrictly_eq file source
        rw [malformed] at refused
        simp only [parseStrictly, refused]
        change _ = match DiagnosticLog.errors
          (AnalysisOptions.outcome ⟨file, {}, false⟩ source readings).2.diagnostics with
          | [] => Except.ok (AnalysisOptions.outcome ⟨file, {}, false⟩ source readings).1
          | first :: _ => .error (Refusal.diagnosed first)
        rw [errors]

end NumericLanguage
