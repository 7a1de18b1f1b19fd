import NumericLanguage.Proofs.Grammar.Acceptance
import NumericLanguage.Proofs.Grammar.Extent
import NumericLanguage.Proofs.Recovery.Debris

/-!
# Errors stay inside their statement

Between two well-formed programs there may stand debris up to a semicolon. What is in front of it is
read as if nothing followed, what is behind it is read as if nothing stood in front, and the
diagnostics about grammar point into the debris (`error_contained`).
-/

set_option autoImplicit false

namespace NumericLanguage

open Parse ParseState

/-! ## Items in debris -/

/-- **Debris is read up to its semicolon**, whatever recovery does on the way. -/
theorem Debris.exists_readsItems {semicolon : Token} {rest : List Token}
    (isSemicolon : semicolon.kind = .operator .semicolon)
    (noElse : NoElse rest) (levels : Nat) {debris : List Token} (isDebris : Debris debris)
    (start : TokenStream) (begins : start.rest = debris ++ semicolon :: rest) :
    ∃ trees behind, behind.rest = rest ∧ start.Moves behind ∧
      (∀ rejection ∈ ParseTree.recordedAll trees, rejection.found ∈ debris ++ [semicolon]) ∧
      ∀ {others : List ParseTree} {final : TokenStream},
        ReadsItems TokenStream.atEnd levels behind others final →
        ReadsItems TokenStream.atEnd levels start (trees ++ others) final := by
  induction size : debris.length using Nat.strongRecOn generalizing debris start with
  | ind size ih =>
      have inside : Inside debris semicolon rest start := ⟨debris, List.suffix_rfl, begins⟩
      have more : start.rest ≠ [] := by simp [begins]
      have goesOn : start.atEnd = false := by simpa [TokenStream.atEnd] using more
      obtain ⟨tree, middle, item, contained⟩ :=
        inside.exists_readsItem isDebris isSemicolon noElse levels
      have moves := item.moves.trans (TokenStream.moves_recovered middle start tree.rejection?)
      have located : ∀ rejection ∈ tree.recorded ++ tree.rejection?.toList,
          rejection.found ∈ debris ++ [semicolon] := by
        intro rejection here
        rw [contained.silent, List.nil_append, Option.mem_toList] at here
        exact contained.located rejection here
      rcases contained.recovered isSemicolon start begins item.moves with
        ⟨remaining, suffix, same⟩ | ended
      · have fewer := item.recovered_lt more
        rw [same, begins, List.length_append, List.length_append] at fewer
        obtain ⟨trees, behind, atRest, later, locatedToo, reads⟩ :=
          ih remaining.length (by omega) (isDebris.of_suffix suffix) _ same rfl
        refine ⟨tree :: trees, behind, atRest, moves.trans later, ?_,
          fun others => .next goesOn item (reads others)⟩
        intro rejection here
        rcases List.mem_append.mp here with first | behind
        · exact located rejection first
        · rcases List.mem_append.mp (locatedToo rejection behind) with found | found
          · exact List.mem_append_left _ (suffix.subset found)
          · exact List.mem_append_right _ found
      · refine ⟨[tree], _, ended, moves, ?_, fun others => .next goesOn item others⟩
        intro rejection here
        rw [ParseTree.recordedAll, ParseTree.recordedAll, List.append_nil] at here
        exact located rejection here

/-! ## Programs with an error -/

/-- Two derivable programs with debris and a semicolon between them are read as the first one, the
debris, and the second one. -/
theorem Debris.exists_readsProgram {before after : List SyntaxTree}
    {first debris second whole : List Token} {semicolon : Token}
    (isDebris : Debris debris) (derivesBefore : DerivesProgram maxNesting before first)
    (derivesAfter : DerivesProgram maxNesting after second) (noElse : NoElse second)
    (noElseDebris : NoElse debris) (isSemicolon : semicolon.kind = .operator .semicolon)
    (same : programTokens whole = first ++ (debris ++ semicolon :: second)) :
    ∃ trees final, ReadsProgram (.ofTokens whole)
        (SyntaxTree.readingAll before ++ trees ++ SyntaxTree.readingAll after) final ∧
      ∀ rejection ∈ ParseTree.recordedAll trees, rejection.found ∈ debris ++ [semicolon] := by
  have alone : NoElse (debris ++ semicolon :: second) :=
    NoElse.append noElseDebris (by simp [NoElse, isSemicolon])
  have derives := derivesBefore.1.append alone
  rw [List.nil_append, ← same] at derives
  obtain ⟨front, readsBefore⟩ := derives.reads (TokenStream.ofTokens whole).stop derivesBefore.2 []
  obtain ⟨trees, behind, atRest, moves, located, readsDebris⟩ := isDebris.exists_readsItems
    isSemicolon noElse maxNesting
    ⟨front, debris ++ semicolon :: second, (TokenStream.ofTokens whole).stop⟩ rfl
  obtain ⟨front', readsAfter⟩ := derivesAfter.1.reads behind.stop derivesAfter.2 behind.consumed
  rw [← atRest] at readsAfter
  have readsRest := readsAfter goesOn_atEnd (.done rfl)
  rw [List.append_nil] at readsRest
  have reads := readsBefore goesOn_atEnd (readsDebris readsRest)
  rw [← List.append_assoc] at reads
  exact ⟨trees, _, reads, located⟩

/-- **An error stays inside its statement.** Two programs parse alone without a diagnostic about
grammar, and between them stands debris, which does not begin with `else`, and a semicolon. Then the
records of the whole begin with those of the first program and end with those of the second, up to
the types of expressions in the second. Every diagnostic about grammar is located at a token of the
debris or at the semicolon behind it. -/
theorem error_contained {policy : RedeclarationPolicy} {before debris after whole : List Token}
    {semicolon : Token} {first second : List Statement} {state₁ state₂ : ParseState}
    (runBefore : program policy (.ofTokens before) = .ok first state₁)
    (cleanBefore : state₁.diagnostics.ofCategory .syntactic = [])
    (runAfter : program policy (.ofTokens after) = .ok second state₂)
    (cleanAfter : state₂.diagnostics.ofCategory .syntactic = [])
    (noElseAfter : NoElse (programTokens after)) (isDebris : Debris debris)
    (noElseDebris : NoElse debris)
    (isSemicolon : semicolon.kind = .operator .semicolon)
    (same : programTokens whole =
      programTokens before ++ (debris ++ semicolon :: programTokens after)) :
    ∃ middle last state, program policy (.ofTokens whole) = .ok (first ++ middle ++ last) state ∧
      last.map Statement.untyped = second.map Statement.untyped ∧
      ∀ diagnostic ∈ state.diagnostics.ofCategory .syntactic,
        ∃ token ∈ debris ++ [semicolon], diagnostic.location = token.location := by
  obtain ⟨treesBefore, derivesBefore⟩ := exists_derivation_of_clean_run runBefore cleanBefore
  obtain ⟨treesAfter, derivesAfter⟩ := exists_derivation_of_clean_run runAfter cleanAfter
  -- The records of the programs alone are the effects of their derivation trees.
  obtain ⟨_, -, effectBefore⟩ := derivesBefore.run (.ofTokens before) policy 0 .nothing
  obtain ⟨_, -, effectAfter⟩ := derivesAfter.run (.ofTokens after) policy 0 .nothing
  cases runBefore.symm.trans effectBefore
  cases runAfter.symm.trans effectAfter
  obtain ⟨trees, final, reads, located⟩ := isDebris.exists_readsProgram derivesBefore derivesAfter
    noElseAfter noElseDebris isSemicolon same
  have run := program_of_reads reads policy 0 .nothing
  -- The effects of the three parts follow each other.
  have inFront := congrArg Prod.fst (ParseTree.effectAll_append policy
    (SyntaxTree.readingAll treesBefore) trees .nothing)
  have statements := congrArg Prod.fst (ParseTree.effectAll_append policy
    (SyntaxTree.readingAll treesBefore ++ trees) (SyntaxTree.readingAll treesAfter) .nothing)
  refine ⟨_, _, _, run.trans (congrArg (EStateM.Result.ok · _) (statements.trans
    (congrArg (· ++ _) inFront))), ?_, ?_⟩
  · rw [← Statement.untypedAll_eq_map, ← Statement.untypedAll_eq_map,
      ParseTree.effectAll_untyped, ParseTree.effectAll_untyped]
  · intro diagnostic recorded
    have syntactic := ParseTree.effectAll_syntactic policy
      (SyntaxTree.readingAll treesBefore ++ trees ++ SyntaxTree.readingAll treesAfter) .nothing
    rw [ParseTree.recordedAll_append, ParseTree.recordedAll_append,
      SyntaxTree.recordedAll_readingAll, SyntaxTree.recordedAll_readingAll, List.append_nil,
      List.nil_append] at syntactic
    -- Nothing is rejected in the two programs, so that the log holds the rejections of the debris.
    have entries : diagnostic ∈ (ParseTree.effectAll policy (SyntaxTree.readingAll treesBefore ++
      trees ++ SyntaxTree.readingAll treesAfter) .nothing).2.syntactic := recorded
    rw [syntactic] at entries
    obtain ⟨rejection, inTrees, rfl⟩ := List.mem_map.mp entries
    exact ⟨rejection.found, located rejection inTrees, rfl⟩

/-- The token of a stray `)`. -/
def strayToken : Token := ⟨.operator .rightParen, ")", none, ⟨"<string>", 1, 9, 8⟩⟩

/-- The semicolon behind the stray `)`. -/
def semicolonToken : Token := ⟨.operator .semicolon, ";", none, ⟨"<string>", 1, 10, 9⟩⟩

theorem debris_strayToken : Debris [strayToken] := by
  refine ⟨?_, ?_, ?_, fun suffix behind => ?_, ?_⟩
  · simp [strayToken]
  · simp [strayToken]
  · simp [strayToken]
  · rcases List.suffix_cons_iff.mp behind with rfl | behind
    · decide
    · rw [List.suffix_nil.mp behind]
      exact Nat.le_refl 0
  · intro token inside
    rw [List.mem_singleton.mp inside]
    exact fun isType => nomatch isType

/-- In `long x; ); long x;` both declarations are read as they are alone. -/
theorem error_contained_between_declarations :
    ∃ statements middle last state,
      program {} (.ofTokens
        (declarationTokens ++ ([strayToken] ++ semicolonToken :: declarationTokens))) =
          .ok (statements ++ middle ++ last) state ∧
      last.map Statement.untyped = statements.map Statement.untyped ∧
      ∀ diagnostic ∈ state.diagnostics.ofCategory .syntactic,
        ∃ token ∈ [strayToken] ++ [semicolonToken], diagnostic.location = token.location := by
  obtain ⟨trees, derives⟩ := derives_declarationTokens
  obtain ⟨statements, alone, run, clean⟩ := derives.exists_clean_run {}
  have whole : programTokens declarationTokens = declarationTokens := rfl
  have noElse : NoElse (programTokens declarationTokens) := by
    rw [whole]
    simp [NoElse, declarationTokens]
  exact ⟨statements, error_contained run clean run clean noElse debris_strayToken
    (by simp [NoElse, strayToken]) rfl rfl⟩

end NumericLanguage
