import NumericLanguage.Proofs.Reading.Diagnostics
import NumericLanguage.Proofs.Grammar.Acceptance

/-!
# Syntax does not depend on what names mean

What is declared, what was recorded, and what is done about redeclarations decides on the types of
expressions and on the diagnostics about names and types, and on nothing else. Two runs from the
same place read the same tokens, item by item, and agree in everything but that
(`program_syntax_independent`): their tables of scopes, their logs and their options may be any.
-/

set_option autoImplicit false

namespace NumericLanguage

open Parse ParseState

/-! ## Recorded alike -/

/-- Two logs are continued with the same diagnostics about grammar, in the same order, and otherwise
with diagnostics about names and types only. -/
def RecordedAlike (first second final last : DiagnosticLog) : Prop :=
  ∃ added others, final = first ++ added ∧ last = second ++ others ∧
    DiagnosticLog.ofCategory others .syntactic = DiagnosticLog.ofCategory added .syntactic ∧
    ∀ diagnostic ∈ added ++ others,
      diagnostic.category = .syntactic ∨ diagnostic.category = .semantic

/-- Parsing records nothing about malformed text. -/
theorem Diagnostic.OfParsing.category_cases {policy : RedeclarationPolicy}
    {diagnostic : Diagnostic} (ofParsing : diagnostic.OfParsing policy) :
    diagnostic.category = .syntactic ∨ diagnostic.category = .semantic := by
  cases ofParsing with
  | rejection => exact .inl rfl
  | undeclared => exact .inr rfl
  | narrowing => exact .inr rfl
  | nonNumericCondition => exact .inr rfl
  | redeclared => exact .inr rfl

/-- What is recorded about grammar tells whether two logs are continued alike. -/
theorem RecordedAlike.of_extends {policy other : RedeclarationPolicy}
    {first second final last : Findings} {recorded : List Diagnostic}
    (extends_ : Findings.Extends policy first final)
    (extendsToo : Findings.Extends other second last)
    (syntactic : final.syntactic = first.syntactic ++ recorded)
    (syntacticToo : last.syntactic = second.syntactic ++ recorded) :
    RecordedAlike first.diagnostics second.diagnostics final.diagnostics last.diagnostics := by
  obtain ⟨added, split, ofParsing⟩ := extends_
  obtain ⟨others, splitToo, ofParsingToo⟩ := extendsToo
  refine ⟨added, others, split, splitToo, ?_, ?_⟩
  · rw [Findings.syntactic, split, DiagnosticLog.ofCategory, List.filter_append] at syntactic
    rw [Findings.syntactic, splitToo, DiagnosticLog.ofCategory, List.filter_append]
      at syntacticToo
    exact (List.append_cancel_left syntacticToo).trans (List.append_cancel_left syntactic).symm
  · intro diagnostic inside
    rcases List.mem_append.mp inside with member | member
    · exact (ofParsing diagnostic member).category_cases
    · exact (ofParsingToo diagnostic member).category_cases

/-! ## Runs from the same place -/

/-- Two runs from states at the same place are alike in their syntax: they have the same results
once types are left out, or fail in the same way; they end at the same place, with as many
statements open; and what they record differs in diagnostics about names and types only. -/
inductive SameSyntax {α : Type} (untyped : α → α) (first second : ParseState) :
    EStateM.Result Failure ParseState α → EStateM.Result Failure ParseState α → Prop
  | ok {result other : α} {final last : ParseState} :
      untyped other = untyped result → last.stream = final.stream →
      last.nesting = final.nesting →
      RecordedAlike first.diagnostics second.diagnostics final.diagnostics last.diagnostics →
      SameSyntax untyped first second (.ok result final) (.ok other last)
  | error {failure : Failure} {final last : ParseState} :
      last.stream = final.stream → last.nesting = final.nesting →
      RecordedAlike first.diagnostics second.diagnostics final.diagnostics last.diagnostics →
      SameSyntax untyped first second (.error failure final) (.error failure last)

section Readings

variable (policy other : RedeclarationPolicy)

theorem recordedAlike_effect (reading : ParseTree) (findings found : Findings) :
    RecordedAlike findings.diagnostics found.diagnostics
      (reading.effect policy findings).2.diagnostics (reading.effect other found).2.diagnostics :=
  .of_extends (reading.effect_extends policy findings) (reading.effect_extends other found)
    (reading.effect_syntactic policy findings) (reading.effect_syntactic other found)

theorem recordedAlike_effectAll (readings : List ParseTree) (findings found : Findings) :
    RecordedAlike findings.diagnostics found.diagnostics
      (ParseTree.effectAll policy readings findings).2.diagnostics
      (ParseTree.effectAll other readings found).2.diagnostics :=
  .of_extends (ParseTree.effectAll_extends policy readings findings)
    (ParseTree.effectAll_extends other readings found)
    (ParseTree.effectAll_syntactic policy readings findings)
    (ParseTree.effectAll_syntactic other readings found)

theorem recordedAlike_settle (reading : ParseTree) (findings found : Findings) :
    RecordedAlike findings.diagnostics found.diagnostics
      (ParseTree.settle (reading.effect policy findings)).diagnostics
      (ParseTree.settle (reading.effect other found)).diagnostics := by
  have settled (policy : RedeclarationPolicy) (findings : Findings) :
      (ParseTree.settle (reading.effect policy findings)).syntactic =
        findings.syntactic ++ (reading.recorded.map Rejection.diagnostic ++
          reading.rejection?.toList.map Rejection.diagnostic) := by
    rw [ParseTree.syntactic_settle, ParseTree.effect_syntactic, List.append_assoc]
  exact .of_extends
    ((reading.effect_extends policy findings).trans (ParseTree.extends_settle policy _))
    ((reading.effect_extends other found).trans (ParseTree.extends_settle other _))
    (settled policy findings) (settled other found)

end Readings

/-- Runs that end at the same place are alike if their results and what they record are. -/
theorem SameSyntax.placed {α : Type} {untyped : α → α} {first second : ParseState}
    {final : TokenStream} {nesting : Nat} {result other : α} {findings found : Findings}
    (same : untyped other = untyped result)
    (alike : RecordedAlike first.diagnostics second.diagnostics findings.diagnostics
      found.diagnostics) :
    SameSyntax untyped first second (.ok result (place final nesting findings))
      (.ok other (place final nesting found)) :=
  .ok same rfl rfl alike

theorem SameSyntax.ended {first second : ParseState} {final : TokenStream} {nesting : Nat}
    {outcome other : Except Rejection Statement × Findings}
    (same : other.1.map Statement.untyped = outcome.1.map Statement.untyped)
    (alike : RecordedAlike first.diagnostics second.diagnostics outcome.2.diagnostics
      other.2.diagnostics) :
    SameSyntax Statement.untyped first second (ended final nesting outcome)
      (Parse.ended final nesting other) := by
  obtain ⟨rejection | statement, findings⟩ := outcome
  · obtain ⟨_ | _, found⟩ := other
    · cases same
      exact .error rfl rfl alike
    · cases same
  · obtain ⟨_ | _, found⟩ := other
    · cases same
    · exact .ok (Except.ok.inj same) rfl rfl alike

/-! ## Statements and items -/

section Steps

variable (policy other : RedeclarationPolicy) {first second : ParseState}

/-- A state is its place, its nesting, and what has been found. -/
theorem eq_place (same : second.stream = first.stream)
    (nested : second.nesting = first.nesting) :
    first = place first.stream first.nesting first.findings ∧
      second = place first.stream first.nesting second.findings := by
  obtain ⟨stream, nesting, table, diagnostics, journal⟩ := second
  cases same
  cases nested
  exact ⟨rfl, rfl⟩

/-- **Two statements that are parsed at the same place are alike.** -/
theorem statement_same_syntax (same : second.stream = first.stream)
    (nested : second.nesting = first.nesting)
    (spelled : ∀ token ∈ first.stream.rest, token.NamesType) :
    SameSyntax Statement.untyped first second (statement policy first)
      (statement other second) := by
  obtain ⟨here, also⟩ := eq_place same nested
  rw [here, also]
  rcases reads_or_misread (maxNesting - first.nesting) first.stream with
    ⟨reading, final, reads⟩ | ⟨⟨token, behind, misnamed⟩, -⟩
  · have run (policy : RedeclarationPolicy) (findings : Findings) :
        statement policy (place first.stream first.nesting findings) =
          ended final first.nesting (reading.effect policy findings) := by
      rw [statement, bind_of_ok (get_apply _)]
      exact reads.run policy first.nesting findings
    rw [run, run]
    exact .ended ((reading.effect_untyped other _).trans (reading.effect_untyped policy _).symm)
      (recordedAlike_effect policy other reading _ _)
  · exact absurd (spelled token behind) misnamed

/-- **Two items that are parsed at the same place are alike.** -/
theorem item_same_syntax (same : second.stream = first.stream)
    (nested : second.nesting = first.nesting)
    (spelled : ∀ token ∈ first.stream.rest, token.NamesType) :
    SameSyntax (Option.map Statement.untyped) first second (item policy first)
      (item other second) := by
  obtain ⟨here, also⟩ := eq_place same nested
  rw [here, also]
  rcases (reads_or_misread (maxNesting - first.nesting)).item first.stream with
    ⟨reading, final, reads⟩ | ⟨⟨token, behind, misnamed⟩, -⟩
  · have run (policy : RedeclarationPolicy) (findings : Findings) :
        item policy (place first.stream first.nesting findings) =
          .ok (reading.effect policy findings).1.toOption
            (place (final.recovered first.stream reading.rejection?) first.nesting
              (ParseTree.settle (reading.effect policy findings))) :=
      (item_of_nesting policy rfl).trans (reads.run policy first.nesting findings)
    have outline (policy : RedeclarationPolicy) (findings : Findings) :
        (reading.effect policy findings).1.toOption.map Statement.untyped =
          reading.outline.toOption := by
      rw [← reading.effect_untyped policy findings]
      cases (reading.effect policy findings).1 <;> rfl
    rw [run, run]
    exact .placed ((outline other _).trans (outline policy _).symm)
      (recordedAlike_settle policy other reading _ _)
  · exact absurd (spelled token behind) misnamed

end Steps

/-! ## Programs -/

/-- Two repetitions of a step go side by side: they stand at the same place before each turn, and at
the place where they stop. -/
inductive SideBySide {α : Type} (stops : TokenStream → Bool) (step other : Parse (Option α)) :
    ParseState → ParseState → Prop
  | done {first second : ParseState} :
      second.stream = first.stream → stops first.stream = true →
      SideBySide stops step other first second
  | next {first second middle between : ParseState} {result another : Option α} :
      second.stream = first.stream → stops first.stream = false →
      step first = .ok result middle → other second = .ok another between →
      SideBySide stops step other middle between → SideBySide stops step other first second

/-- Items that are read run side by side, whatever was found before. -/
theorem ReadsItems.sideBySide (policy other : RedeclarationPolicy) :
    ∀ {place final : TokenStream} {readings : List ParseTree},
    ReadsItems TokenStream.atEnd maxNesting place readings final → ∀ findings found : Findings,
    SideBySide TokenStream.atEnd (item policy) (item other) (ParseState.place place 0 findings)
      (ParseState.place place 0 found)
  | _, _, _, .done stopped, _, _ => .done rfl stopped
  | _, _, _, .next goesOn item others, findings, found =>
      .next rfl goesOn ((item_of_outside policy rfl).trans (item.run policy 0 findings))
        ((item_of_outside other rfl).trans (item.run other 0 found))
        (others.sideBySide policy other _ _)

/-- The state in which the first item of a program is parsed. -/
def ParseState.atBeginning (state : ParseState) : ParseState :=
  { state with stream := state.stream.rewound, nesting := 0 }

/-- **Syntax does not depend on what names mean.** For every list of tokens that spell the types
they stand for, every two tables of scopes and every two options, both runs have a result. The
statements are the same once types are left out, the runs read the same tokens item by item, and the
diagnostics about grammar are the same, in the same order; what is recorded differs in diagnostics
about names and types only. -/
theorem program_syntax_independent (policy other : RedeclarationPolicy) (tokens : List Token)
    (spelled : ∀ token ∈ programTokens tokens, token.NamesType) {first second : ParseState}
    (begins : first.stream = .ofTokens tokens) (beginsToo : second.stream = .ofTokens tokens) :
    ∃ statements final others last, program policy first = .ok statements final ∧
      program other second = .ok others last ∧
      others.map Statement.untyped = statements.map Statement.untyped ∧
      SideBySide TokenStream.atEnd (item policy) (item other) first.atBeginning
        second.atBeginning ∧
      last.stream = final.stream ∧
      RecordedAlike first.diagnostics second.diagnostics final.diagnostics last.diagnostics := by
  obtain ⟨readings, final, reads⟩ := exists_reads_of_namesType (.ofTokens tokens) spelled
  have here : first = place (.ofTokens tokens) first.nesting first.findings := by
    rw [← begins]
    rfl
  have also : second = place (.ofTokens tokens) second.nesting second.findings := by
    rw [← beginsToo]
    rfl
  have run := program_of_reads reads policy first.nesting first.findings
  have runToo := program_of_reads reads other second.nesting second.findings
  rw [← here] at run
  rw [← also] at runToo
  have sideBySide : SideBySide TokenStream.atEnd (item policy) (item other) first.atBeginning
      second.atBeginning := by
    have start : first.atBeginning = place (TokenStream.ofTokens tokens).rewound 0
        first.findings := by
      rw [ParseState.atBeginning, begins]
      rfl
    have startToo : second.atBeginning = place (TokenStream.ofTokens tokens).rewound 0
        second.findings := by
      rw [ParseState.atBeginning, beginsToo]
      rfl
    rw [start, startToo]
    exact reads.sideBySide policy other _ _
  have alike := recordedAlike_effectAll policy other readings first.findings second.findings
  have outline := ParseTree.effectAll_untyped policy readings first.findings
  have outlineToo := ParseTree.effectAll_untyped other readings second.findings
  rw [← outline, Statement.untypedAll_eq_map, Statement.untypedAll_eq_map] at outlineToo
  generalize ParseTree.effectAll policy readings first.findings = done at run alike outlineToo
  generalize ParseTree.effectAll other readings second.findings = doneToo
    at runToo alike outlineToo
  exact ⟨_, _, _, _, run, runToo, outlineToo, sideBySide,
    (stream_place ..).trans (stream_place ..).symm, alike⟩

/-- In front of `long x;`, with nothing declared yet or with `x` declared as a double. -/
def inFrontOfDeclaration (known : List Declaration) : ParseState :=
  { ParseState.ofTokens declarationTokens with table := ⟨⟨"global", 0, known⟩, [], 0⟩ }

/-- Whether `x` is declared and what is done about a redeclaration makes no difference to how
`long x;` is read. -/
theorem program_syntax_independent_redeclaration :
    ∃ statements final others last,
      program {} (inFrontOfDeclaration []) = .ok statements final ∧
      program ⟨true, true⟩
        (inFrontOfDeclaration [⟨"x", .double, 1, "global", none, ⟨"<string>", 1, 8, 7⟩⟩]) =
          .ok others last ∧
      others.map Statement.untyped = statements.map Statement.untyped ∧
      SideBySide TokenStream.atEnd (item {}) (item ⟨true, true⟩)
        (inFrontOfDeclaration []).atBeginning
        (inFrontOfDeclaration
          [⟨"x", .double, 1, "global", none, ⟨"<string>", 1, 8, 7⟩⟩]).atBeginning ∧
      last.stream = final.stream ∧
      RecordedAlike [] [] final.diagnostics last.diagnostics :=
  program_syntax_independent {} ⟨true, true⟩ declarationTokens declarationTokens_namesType rfl rfl

end NumericLanguage
