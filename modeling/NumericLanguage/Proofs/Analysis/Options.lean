import NumericLanguage.Proofs.Analysis.Policies

/-!
# The options of an analysis

The options are compared over one text. Its tokens have one reading, whatever the options are, so
that reports differ by the policy about redeclarations only as their logs are viewed
(`Report.ViewOf`), and by stopping only if there is malformed text (`Report.StoppedFrom`).
-/

set_option autoImplicit false

namespace NumericLanguage

/-! ## Severities and categories -/

/-- An error, unless it is about a redeclaration. -/
def Diagnostic.WarnsOfRedeclaration (diagnostic : Diagnostic) : Prop :=
  diagnostic.isError = !diagnostic.isRedeclaration

theorem LexicalFault.warnsOfRedeclaration (fault : LexicalFault) (location : Location) :
    (fault.diagnostic location).WarnsOfRedeclaration := by
  rw [Diagnostic.WarnsOfRedeclaration, fault.isRedeclaration_diagnostic]
  rfl

namespace Diagnostic.OfParsing

/-- Parsing records no diagnostics about malformed text. -/
theorem category_ne {policy : RedeclarationPolicy} {diagnostic : Diagnostic}
    (ofParsing : diagnostic.OfParsing policy) : diagnostic.category ≠ .lexical := by
  cases ofParsing <;> exact nofun

/-- Under the default policy redeclarations are the only warnings. -/
theorem warnsOfRedeclaration {diagnostic : Diagnostic} (ofParsing : diagnostic.OfParsing {}) :
    diagnostic.WarnsOfRedeclaration := by
  rw [WarnsOfRedeclaration]
  cases ofParsing with
  | rejection rejection =>
      rw [rejection.isRedeclaration_diagnostic]
      rfl
  | undeclared name location =>
      rw [SemanticFault.diagnostic, SemanticFault.isRedeclaration_diagnosticAs]
      rfl
  | narrowing name declared inferred location =>
      rw [SemanticFault.diagnostic, SemanticFault.isRedeclaration_diagnosticAs]
      rfl
  | nonNumericCondition type location =>
      rw [SemanticFault.diagnostic, SemanticFault.isRedeclaration_diagnosticAs]
      rfl
  | redeclared redeclaration reported =>
      rw [Redeclaration.diagnosticAs, SemanticFault.isRedeclaration_diagnosticAs]
      rfl

end Diagnostic.OfParsing

/-- Every escalated diagnostic is an error. -/
theorem Diagnostic.isError_escalated {diagnostic : Diagnostic}
    (warns : diagnostic.WarnsOfRedeclaration) : diagnostic.escalated.isError = true := by
  unfold escalated
  split
  · rfl
  · rename_i other
    rw [Bool.not_eq_true] at other
    exact warns.trans (congrArg Bool.not other)

/-- What a policy does to the presence of errors: if redeclarations are errors, every diagnostic is
one, and otherwise the same ones are. -/
theorem RedeclarationPolicy.hasErrors_view (policy : RedeclarationPolicy) {log : DiagnosticLog}
    (warns : ∀ diagnostic ∈ log, diagnostic.WarnsOfRedeclaration) :
    (policy.view log).hasErrors =
      if policy.reported && policy.asErrors then !log.isEmpty else log.hasErrors := by
  obtain ⟨asErrors, reported⟩ := policy
  cases reported with
  | false =>
      change (log.filter fun diagnostic => !diagnostic.isRedeclaration).any _ = log.any _
      rw [Bool.eq_iff_iff, List.any_eq_true, List.any_eq_true]
      constructor
      · rintro ⟨diagnostic, inside, isError⟩
        exact ⟨diagnostic, (List.mem_filter.mp inside).1, isError⟩
      · rintro ⟨diagnostic, inside, isError⟩
        have other := (warns diagnostic inside).symm.trans isError
        exact ⟨diagnostic, List.mem_filter.mpr ⟨inside, other⟩, isError⟩
  | true =>
      cases asErrors with
      | false => rfl
      | true =>
          change (log.map Diagnostic.escalated).any _ = !log.isEmpty
          cases log with
          | nil => rfl
          | cons first others =>
              have isError := Diagnostic.isError_escalated (warns first List.mem_cons_self)
              rw [List.map_cons, List.any_cons, isError, Bool.true_or]
              rfl

/-! ## Outcomes -/

section Outcomes

variable (file source : String) (policy : RedeclarationPolicy) (stop : Bool)
  (options : AnalysisOptions) (readings : List ParseTree)

/-- Whatever is asked for, the same is found when parsing begins, and no redeclaration is in it. -/
theorem begun_viewed :
    Findings.Viewed policy (AnalysisOptions.begun ⟨file, {}, stop⟩ source)
      (AnalysisOptions.begun ⟨file, policy, stop⟩ source) := by
  refine ⟨rfl, (policy.view_eq_self fun diagnostic inside => ?_).symm⟩
  obtain ⟨fault, location, rfl⟩ := exists_fault_of_mem_tokenize inside
  exact fault.isRedeclaration_diagnostic location

/-- The diagnostics about malformed text are those from before parsing. -/
theorem ofCategory_lexical_outcome :
    (options.outcome source readings).2.diagnostics.ofCategory .lexical =
      (tokenize options.file source).diagnostics := by
  obtain ⟨added, split, ofParsing⟩ := options.exists_added source readings
  have lexical : (tokenize options.file source).diagnostics.filter
      (fun diagnostic => diagnostic.category = .lexical) =
        (tokenize options.file source).diagnostics := ofCategory_lexical_tokenize
  have others : added.filter (fun diagnostic => diagnostic.category = .lexical) = [] := by
    refine List.filter_eq_nil_iff.mpr ?_
    intro diagnostic inside
    rw [decide_eq_true_iff]
    exact (ofParsing diagnostic inside).category_ne
  rw [split, DiagnosticLog.ofCategory, List.filter_append, lexical, others, List.append_nil]

/-- Under the default policy redeclarations are the only warnings. -/
theorem warnsOfRedeclaration_outcome :
    ∀ diagnostic ∈ (AnalysisOptions.outcome ⟨file, {}, stop⟩ source readings).2.diagnostics,
      diagnostic.WarnsOfRedeclaration := by
  obtain ⟨added, split, ofParsing⟩ :=
    AnalysisOptions.exists_added ⟨file, {}, stop⟩ source readings
  intro diagnostic inside
  rw [split] at inside
  rcases List.mem_append.mp inside with early | late
  · obtain ⟨fault, location, rfl⟩ := exists_fault_of_mem_tokenize early
    exact fault.warnsOfRedeclaration location
  · exact (ofParsing diagnostic late).warnsOfRedeclaration

end Outcomes

/-! ## Reports -/

namespace Report

/-- A report under a policy about redeclarations and the one on the same text under the default
policy: the log is what the policy makes of the default one. -/
structure ViewOf (policy : RedeclarationPolicy) (report plain : Report) : Prop where
  tokens : report.tokens = plain.tokens
  statements : report.statements = plain.statements
  diagnostics : report.diagnostics = policy.view plain.diagnostics
  table : report.table = plain.table
  parsed : report.parsed = plain.parsed

/-- A report on a text that was left unparsed and the one on the same text, parsed. -/
structure StoppedFrom (stopped full : Report) : Prop where
  tokens : stopped.tokens = full.tokens
  statements : stopped.statements = []
  diagnostics : stopped.diagnostics = full.diagnostics.ofCategory .lexical
  table : stopped.table = .empty
  parsed : stopped.parsed = false

/-- Which reports have errors, if redeclarations are the only warnings of the default one. -/
theorem ViewOf.hasErrors_eq {policy : RedeclarationPolicy} {report plain : Report}
    (viewed : report.ViewOf policy plain)
    (warns : ∀ diagnostic ∈ plain.diagnostics, diagnostic.WarnsOfRedeclaration) :
    report.hasErrors = if policy.reported && policy.asErrors then !plain.diagnostics.isEmpty
      else plain.hasErrors := by
  rw [Report.hasErrors, viewed.diagnostics]
  exact policy.hasErrors_view warns

end Report

section Reports

variable (file source : String) (policy : RedeclarationPolicy) (stop : Bool)
  (readings : List ParseTree)

theorem parsedReport_viewOf :
    (AnalysisOptions.parsedReport ⟨file, policy, stop⟩ source readings).ViewOf policy
      (AnalysisOptions.parsedReport ⟨file, {}, stop⟩ source readings) := by
  have outcomes : Agree policy (AnalysisOptions.outcome ⟨file, {}, stop⟩ source readings)
      (AnalysisOptions.outcome ⟨file, policy, stop⟩ source readings) :=
    ParseTree.effectAll_agrees readings (begun_viewed file source policy stop)
  exact ⟨rfl, outcomes.result, outcomes.findings.diagnostics, outcomes.findings.table, rfl⟩

theorem stoppedReport_viewOf :
    (AnalysisOptions.stoppedReport ⟨file, policy, stop⟩ source).ViewOf policy
      (AnalysisOptions.stoppedReport ⟨file, {}, stop⟩ source) :=
  ⟨rfl, rfl, (begun_viewed file source policy stop).diagnostics, rfl, rfl⟩

theorem stoppedReport_stoppedFrom (other : Bool) :
    (AnalysisOptions.stoppedReport ⟨file, policy, other⟩ source).StoppedFrom
      (AnalysisOptions.parsedReport ⟨file, policy, stop⟩ source readings) :=
  ⟨rfl, rfl, (ofCategory_lexical_outcome source _ readings).symm, rfl, rfl⟩

end Reports

/-- **The options change what they are for.** Under every policy about redeclarations an analysis
has the report of the default one, with its log as the policy views it: redeclarations are left out,
or made errors, and nothing else is changed. If they are made errors there is an error wherever the
default report has a diagnostic; otherwise there is one wherever the default report has one.

Stopping at malformed text changes nothing unless there is some; then nothing is parsed, and the
diagnostics about malformed text remain. -/
theorem analyze_options (file source : String) :
    (∀ stop, ∃ plain, analyze ⟨file, {}, stop⟩ source = .ok plain ∧
      ∀ policy, ∃ report, analyze ⟨file, policy, stop⟩ source = .ok report ∧
        report.ViewOf policy plain ∧
        report.hasErrors = if policy.reported && policy.asErrors then !plain.diagnostics.isEmpty
          else plain.hasErrors) ∧
    (∀ policy, ∃ full stopped, analyze ⟨file, policy, false⟩ source = .ok full ∧
      analyze ⟨file, policy, true⟩ source = .ok stopped ∧ full.parsed = true ∧
      (full.diagnostics.ofCategory .lexical = [] ∧
          stopped = { full with options := ⟨file, policy, true⟩ } ∨
        full.diagnostics.ofCategory .lexical ≠ [] ∧ stopped.StoppedFrom full)) := by
  obtain ⟨readings, final, reads⟩ := exists_reads_of_source file source
  refine ⟨fun stop => ?_, fun policy => ?_⟩
  · -- Whether the tokens are parsed does not depend on the policy.
    by_cases parses : AnalysisOptions.Parses ⟨file, {}, stop⟩ source
    · refine ⟨_, analyze_of_reads reads parses, ?_⟩
      intro policy
      have viewed := parsedReport_viewOf file source policy stop readings
      exact ⟨_, analyze_of_reads reads parses, viewed,
        viewed.hasErrors_eq (warnsOfRedeclaration_outcome file source stop readings)⟩
    · refine ⟨_, analyze_of_stop parses, ?_⟩
      intro policy
      have viewed := stoppedReport_viewOf file source policy stop
      refine ⟨_, analyze_of_stop parses, viewed, viewed.hasErrors_eq ?_⟩
      intro diagnostic inside
      obtain ⟨fault, location, rfl⟩ := exists_fault_of_mem_tokenize inside
      exact fault.warnsOfRedeclaration location
  · have full : analyze ⟨file, policy, false⟩ source = _ := analyze_of_reads reads (.inl rfl)
    have lexical := ofCategory_lexical_outcome source ⟨file, policy, false⟩ readings
    by_cases wellFormed : (tokenize file source).diagnostics = []
    · exact ⟨_, _, full, analyze_of_reads reads (.inr wellFormed), rfl,
        .inl ⟨lexical.trans wellFormed, rfl⟩⟩
    · have stops : ¬ AnalysisOptions.Parses ⟨file, policy, true⟩ source := by
        rintro (never | none)
        · cases never
        · exact wellFormed none
      exact ⟨_, _, full, analyze_of_stop stops, rfl,
        .inr ⟨fun none => wellFormed (lexical.symm.trans none),
          stoppedReport_stoppedFrom file source policy false readings true⟩⟩

end NumericLanguage
