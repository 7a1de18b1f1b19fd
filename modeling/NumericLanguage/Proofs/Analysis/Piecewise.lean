import NumericLanguage.Proofs.Reading.Simulation
import NumericLanguage.Proofs.Recovery.Containment

/-!
# Programs in pieces

A program may be parsed in pieces: what is parsed without a diagnostic about grammar ends where it
ends, whatever follows, and means what it means, wherever it stands. Two such programs in a row, the
second one not beginning with `else`, have the statements, the diagnostics and the table of scopes
that a second parser leaves that goes on with the table and the log of a first one
(`program_piecewise`).
-/

set_option autoImplicit false

namespace NumericLanguage

open Parse ParseState

/-! ## Derivations in a row -/

/-- Items behind items are items. -/
theorem DerivesItems.trans {trees others : List SyntaxTree} {input middle rest : List Token} :
    DerivesItems trees input middle → DerivesItems others middle rest →
    DerivesItems (trees ++ others) input rest
  | .nil, behind => behind
  | .cons item inFront, behind => .cons item (inFront.trans behind)

namespace SyntaxTree

variable (trees others : List SyntaxTree)

theorem levelsAll_append :
    levelsAll (trees ++ others) = max (levelsAll trees) (levelsAll others) := by
  induction trees with
  | nil => exact (Nat.zero_max _).symm
  | cons tree trees ih => rw [List.cons_append, levelsAll, levelsAll, ih, Nat.max_assoc]

theorem readingAll_append :
    readingAll (trees ++ others) = readingAll trees ++ readingAll others := by
  induction trees with
  | nil => rfl
  | cons tree trees ih => rw [List.cons_append, readingAll, readingAll, ih, List.cons_append]

end SyntaxTree

/-- **Derivable programs in a row are derivable**, unless the second one begins with `else`. -/
theorem DerivesProgram.append {levels : Nat} {trees others : List SyntaxTree}
    {tokens more : List Token} (inFront : DerivesProgram levels trees tokens)
    (behind : DerivesProgram levels others more) (noElse : NoElse more) :
    DerivesProgram levels (trees ++ others) (tokens ++ more) :=
  ⟨(inFront.1.append noElse).trans behind.1, by
    rw [SyntaxTree.levelsAll_append]
    exact Nat.max_le.mpr ⟨inFront.2, behind.2⟩⟩

theorem programTokens_append {tokens : List Token}
    (open_ : ∀ token ∈ tokens, token.kind ≠ .endOfInput) (more : List Token) :
    programTokens (tokens ++ more) = tokens ++ programTokens more :=
  List.takeWhile_append_of_pos fun token inside => by simpa [Token.isEnd] using open_ token inside

/-! ## Findings that match -/

/-- The same table and the same log; the journals may tell of it in different ways. -/
structure Findings.Matches (first second : Findings) : Prop where
  table : second.table = first.table
  diagnostics : second.diagnostics = first.diagnostics

/-- What a reading does to the table and to the log does not depend on the journal. -/
theorem Findings.Matches.simulation (policy : RedeclarationPolicy) :
    Simulation policy policy Findings.Matches where
  table := Matches.table
  retable _ matched := ⟨rfl, matched.diagnostics⟩
  note _ matched := ⟨matched.table, matched.diagnostics⟩
  reject rejection matched :=
    ⟨matched.table, congrArg (DiagnosticLog.record · rejection.diagnostic) matched.diagnostics⟩
  report {_ _ fault} token _ matched :=
    ⟨matched.table,
      congrArg (DiagnosticLog.record · (fault.diagnostic token.location)) matched.diagnostics⟩
  redeclare redeclaration matched := by
    unfold Findings.redeclare
    cases policy.reported with
    | false => exact ⟨matched.table, matched.diagnostics⟩
    | true => exact ⟨matched.table, congrArg (DiagnosticLog.record · _) matched.diagnostics⟩

theorem ParseTree.effectAll_note (policy : RedeclarationPolicy) (readings : List ParseTree)
    (findings : Findings) (event : Event) :
    Findings.SameOutcome Findings.Matches (effectAll policy readings findings)
      (effectAll policy readings (findings.note event)) :=
  (Findings.Matches.simulation policy).effectAll readings ⟨rfl, rfl⟩

/-! ## Programs in a row -/

/-- **Programs may be parsed in pieces.** The tokens `front` and `behind` are each parsed alone
without a diagnostic about grammar, and `behind` does not begin with `else`. Then, from every state
and under every policy, one parser for both gives the statements of a first parser for `front` and
of a second one for `behind` that goes on with the table and the log of the first one, with their
types, and it leaves the table and the log that the second one leaves. -/
theorem program_piecewise {alone other : RedeclarationPolicy} {front behind : List Token}
    {first second : List Statement} {state₁ state₂ : ParseState}
    (open_ : ∀ token ∈ front, token.kind ≠ .endOfInput)
    (runFront : program alone (.ofTokens front) = .ok first state₁)
    (cleanFront : state₁.diagnostics.ofCategory .syntactic = [])
    (runBehind : program other (.ofTokens behind) = .ok second state₂)
    (cleanBehind : state₂.diagnostics.ofCategory .syntactic = [])
    (noElse : NoElse (programTokens behind)) (policy : RedeclarationPolicy) (state : ParseState) :
    ∃ statements middle others last final,
      program policy { state with stream := .ofTokens front } = .ok statements middle ∧
      program policy { middle with stream := .ofTokens behind } = .ok others last ∧
      program policy { state with stream := .ofTokens (front ++ behind) } =
        .ok (statements ++ others) final ∧
      final.table = last.table ∧ final.diagnostics = last.diagnostics := by
  obtain ⟨trees, derives⟩ := exists_derivation_of_clean_run runFront cleanFront
  obtain ⟨more, derivesMore⟩ := exists_derivation_of_clean_run runBehind cleanBehind
  have whole := derives.append derivesMore noElse
  have alone : programTokens front = front := by
    simpa [programTokens] using programTokens_append open_ []
  rw [alone, ← programTokens_append open_] at whole
  obtain ⟨_, -, run⟩ := derives.run (.ofTokens front) policy state.nesting state.findings
  obtain ⟨_, -, runWhole⟩ := whole.run (.ofTokens (front ++ behind)) policy state.nesting
    state.findings
  rw [SyntaxTree.readingAll_append, ParseTree.effectAll_append] at runWhole
  generalize ParseTree.effectAll policy (SyntaxTree.readingAll trees) state.findings = done
    at run runWhole
  obtain ⟨_, -, runMore⟩ := derivesMore.run (.ofTokens behind) policy 0
    (done.2.note (.parsed done.1.length))
  -- The second parser begins with one event more in the journal than the one for both.
  have same := ParseTree.effectAll_note policy (SyntaxTree.readingAll more) done.2
    (.parsed done.1.length)
  rw [← same.result] at runWhole
  exact ⟨_, _, _, _, _, run, runMore, runWhole, same.findings.table.symm,
    same.findings.diagnostics.symm⟩

/-- `long x;` twice in a row is parsed in two pieces. -/
theorem program_piecewise_declarations :
    ∃ statements middle others last final,
      program {} (.ofTokens declarationTokens) = .ok statements middle ∧
      program {} { middle with stream := .ofTokens declarationTokens } = .ok others last ∧
      program {} (.ofTokens (declarationTokens ++ declarationTokens)) =
        .ok (statements ++ others) final ∧
      final.table = last.table ∧ final.diagnostics = last.diagnostics := by
  obtain ⟨trees, derives⟩ := derives_declarationTokens
  obtain ⟨statements, state, run, clean⟩ := derives.exists_clean_run {}
  have noElse : NoElse (programTokens declarationTokens) := by
    show NoElse declarationTokens
    simp [NoElse, declarationTokens]
  exact program_piecewise (by simp [declarationTokens]) run clean run clean noElse {}
    (.ofTokens declarationTokens)

end NumericLanguage
