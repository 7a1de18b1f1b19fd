import NumericLanguage.Proofs.Reading.Program
import NumericLanguage.Proofs.Scoping.Frame
import NumericLanguage.Token.Sequence

/-!
# The parser accepts its grammar

A derivation tree is a reading without rejections. What a tree derives is read as that tree
(`DerivesStatement.reads`), and what is read without a rejection is derived by the tree of the
reading (`Reads.exists_derivation`). A program is therefore parsed without a diagnostic about
grammar if and only if it is derivable with the levels that the parser has to spare, and the records
are then those of its derivation (`program_accepts_iff`).
-/

set_option autoImplicit false

namespace NumericLanguage

open Parse ParseState

/-! ## Derivation trees as readings -/

namespace SyntaxTree

mutual
/-- A derivation tree as a reading. -/
def reading : SyntaxTree → ParseTree
  | declaration typeToken name type initial => .declaration typeToken name type initial none
  | read keyword name => .read keyword name
  | write keyword tokens => .write keyword tokens
  | ifThen keyword condition consequence => .ifThen keyword condition consequence.reading
  | ifThenElse keyword condition consequence alternative =>
      .ifThenElse keyword condition consequence.reading alternative.reading
  | loop keyword condition body => .loop keyword condition body.reading
  | block opening items => .block opening (readingAll items) none
  | expression tokens semicolon => .expression tokens semicolon

/-- Derivation trees as readings. -/
def readingAll : List SyntaxTree → List ParseTree
  | [] => []
  | tree :: others => tree.reading :: readingAll others
end

mutual
/-- The outline of a derivation tree is that of its reading. -/
theorem outline_reading : ∀ tree : SyntaxTree, tree.reading.outline = .ok tree.outline
  | .declaration .. => rfl
  | .read .. => rfl
  | .write .. => rfl
  | .ifThen _ _ consequence => by
      rw [reading, ParseTree.outline, outline_reading consequence]
      rfl
  | .ifThenElse _ _ consequence alternative => by
      rw [reading, ParseTree.outline, outline_reading consequence, outline_reading alternative]
      rfl
  | .loop _ _ body => by
      rw [reading, ParseTree.outline, outline_reading body]
      rfl
  | .block opening items => by
      rw [reading, ParseTree.outline, outlineAll_readingAll items]
      rfl
  | .expression .. => rfl

theorem outlineAll_readingAll : ∀ trees : List SyntaxTree,
    ParseTree.outlineAll (readingAll trees) = outlineAll trees
  | [] => rfl
  | tree :: others => by
      rw [readingAll, ParseTree.outlineAll, outline_reading tree, outlineAll_readingAll others]
      rfl
end

theorem rejection?_reading (tree : SyntaxTree) : tree.reading.rejection? = none := by
  rw [ParseTree.rejection?, outline_reading]

mutual
theorem recorded_reading : ∀ tree : SyntaxTree, tree.reading.recorded = []
  | .declaration .. => rfl
  | .read .. => rfl
  | .write .. => rfl
  | .ifThen _ _ consequence => by
      rw [reading, ParseTree.recorded, recorded_reading consequence]
  | .ifThenElse _ _ consequence alternative => by
      rw [reading, ParseTree.recorded, recorded_reading consequence, recorded_reading alternative]
      rfl
  | .loop _ _ body => by rw [reading, ParseTree.recorded, recorded_reading body]
  | .block _ items => by
      rw [reading, ParseTree.recorded, recordedAll_readingAll items]
      rfl
  | .expression .. => rfl

/-- A derivation tree holds no rejection. -/
theorem recordedAll_readingAll : ∀ trees : List SyntaxTree,
    ParseTree.recordedAll (readingAll trees) = []
  | [] => rfl
  | tree :: others => by
      rw [readingAll, ParseTree.recordedAll, recorded_reading tree, rejection?_reading,
        recordedAll_readingAll others]
      rfl
end

end SyntaxTree

/-! ## What is derivable is read -/

theorem DerivesBlock.levels_pos {tree : SyntaxTree} {input rest : List Token}
    (derives : DerivesBlock tree input rest) : 0 < tree.levels := by
  cases derives with
  | braces => exact Nat.succ_pos _

/-- No expression begins with a closing brace. -/
theorem IsExpression.head_ne {expression : List Token} (isExpression : IsExpression expression) :
    ∀ first ∈ expression.head?, first.kind ≠ .operator .rightBrace := by
  cases isExpression with
  | nil => simp
  | plain _ _ notBrace _ => simpa using notBrace
  | group isOpening _ _ _ => simp [isOpening]

theorem DerivesStatement.exists_head {tree : SyntaxTree} {input rest : List Token}
    (derives : DerivesStatement tree input rest) :
    ∃ first behind, input = first :: behind ∧ first.kind ≠ .operator .rightBrace := by
  cases derives with
  | read isKeyword => exact ⟨_, _, rfl, by simp [isKeyword]⟩
  | write isKeyword => exact ⟨_, _, rfl, by simp [isKeyword]⟩
  | ifThen isKeyword => exact ⟨_, _, rfl, by simp [isKeyword]⟩
  | ifThenElse isKeyword => exact ⟨_, _, rfl, by simp [isKeyword]⟩
  | loop isKeyword => exact ⟨_, _, rfl, by simp [isKeyword]⟩
  | block block =>
      cases block with
      | braces isOpening => exact ⟨_, _, rfl, by simp [isOpening]⟩
  | @expression semicolon tokens _ isExpression isSemicolon _ =>
      cases tokens with
      | nil => exact ⟨_, _, rfl, by simp [isSemicolon]⟩
      | cons first others => exact ⟨_, _, rfl, isExpression.head_ne first rfl⟩

/-- Neither a declaration nor a statement begins with a closing brace. -/
theorem DerivesItem.exists_head {tree : SyntaxTree} {input rest : List Token}
    (derives : DerivesItem tree input rest) :
    ∃ first behind, input = first :: behind ∧ first.kind ≠ .operator .rightBrace := by
  cases derives with
  | declaration isType => exact ⟨_, _, rfl, TokenKind.ne_operator_of_isTypeName isType _⟩
  | initialized isType => exact ⟨_, _, rfl, TokenKind.ne_operator_of_isTypeName isType _⟩
  | statement _ statement => exact statement.exists_head

/-- A test that fails in front of every token but a closing brace. -/
def GoesOn (stops : TokenStream → Bool) : Prop :=
  ∀ (stream : TokenStream) (first : Token) (behind : List Token), stream.rest = first :: behind →
    first.kind ≠ .operator .rightBrace → stops stream = false

theorem goesOn_blockStops : GoesOn blockStops := by
  intro stream first behind same notBrace
  simp [blockStops, TokenStream.startsWith, TokenStream.atEnd, same, notBrace]

theorem goesOn_atEnd : GoesOn TokenStream.atEnd := by
  intro stream first behind same _
  simp [TokenStream.atEnd, same]

section Completeness

variable (stop : Token)

mutual
/-- **A derivable statement is read as its derivation tree**, with enough levels to spare. -/
theorem DerivesStatement.reads : ∀ {tree : SyntaxTree} {input rest : List Token},
    DerivesStatement tree input rest → ∀ {levels : Nat}, tree.levels ≤ levels →
    ∀ front : List Token, ∃ front',
      Reads levels ⟨front, input, stop⟩ tree.reading ⟨front', rest, stop⟩
  | _, _, _, .read isKeyword isOpening isName isClosing isSemicolon, _ + 1, _, _ =>
      ⟨_, .read isKeyword isOpening isName isClosing isSemicolon⟩
  | _, _, _, .write isKeyword isOpening isExpression isClosing isSemicolon, _ + 1, _, _ =>
      ⟨_, .write isKeyword isOpening isExpression isClosing isSemicolon⟩
  | _, _, _, .ifThen isKeyword isOpening isExpression isClosing isThen consequence noElse,
      _ + 1, fits, _ => by
      obtain ⟨front', reads⟩ := consequence.reads (Nat.le_of_succ_le_succ fits) _
      exact ⟨front', .ifThen isKeyword isOpening isExpression isClosing isThen reads
        fun _ => noElse⟩
  | _, _, _, .ifThenElse isKeyword isOpening isExpression isClosing isThen consequence isElse
      alternative, _ + 1, fits, _ => by
      have fits := Nat.max_le.mp (Nat.le_of_succ_le_succ fits)
      obtain ⟨_, first⟩ := consequence.reads fits.1 _
      obtain ⟨front', second⟩ := alternative.reads fits.2 _
      exact ⟨front', .ifThenElse isKeyword isOpening isExpression isClosing isThen first
        (SyntaxTree.rejection?_reading _) isElse second⟩
  | _, _, _, .loop isKeyword isOpening isExpression isClosing body, _, fits, _ => by
      obtain ⟨_, rfl⟩ := Nat.exists_eq_add_one.mpr (Nat.lt_of_lt_of_le body.levels_pos fits)
      obtain ⟨front', reads⟩ := body.reads fits _
      exact ⟨front', .loop isKeyword isOpening isExpression isClosing reads⟩
  | _, _, _, .block block, _, fits, _ => by
      obtain ⟨_, rfl⟩ := Nat.exists_eq_add_one.mpr (Nat.lt_of_lt_of_le block.levels_pos fits)
      obtain ⟨front', reads⟩ := block.reads fits _
      exact ⟨front', .block reads⟩
  | _, _, _, .expression isExpression isSemicolon other, _ + 1, _, _ =>
      ⟨_, .expression isExpression isSemicolon other⟩

theorem DerivesBlock.reads : ∀ {tree : SyntaxTree} {input rest : List Token},
    DerivesBlock tree input rest → ∀ {levels : Nat}, tree.levels ≤ levels + 1 →
    ∀ front : List Token, ∃ front',
      ReadsBlock levels ⟨front, input, stop⟩ tree.reading ⟨front', rest, stop⟩
  | _, _, _, .braces isOpening items isClosing, _, fits, front => by
      obtain ⟨front', reads⟩ := items.reads (Nat.le_of_succ_le_succ fits) (_ :: front)
      have stopped := reads goesOn_blockStops (.done (by
        simp [blockStops, TokenStream.startsWith, isClosing]))
      rw [List.append_nil] at stopped
      exact ⟨_, .closed isOpening stopped isClosing⟩

theorem DerivesItem.reads : ∀ {tree : SyntaxTree} {input rest : List Token},
    DerivesItem tree input rest → ∀ {levels : Nat}, tree.levels ≤ levels →
    ∀ front : List Token, ∃ front',
      ReadsItem levels ⟨front, input, stop⟩ tree.reading ⟨front', rest, stop⟩
  | _, _, _, .declaration isType names isName isSemicolon, _, _, _ =>
      ⟨_, .declaration isType names isName isSemicolon⟩
  | _, _, _, .initialized isType names isName isSign isExpression isSemicolon, _, _, _ =>
      ⟨_, .initialized isType names isName isSign isExpression isSemicolon⟩
  | _, _, _, .statement notType statement, _, fits, front => by
      obtain ⟨front', reads⟩ := statement.reads fits front
      exact ⟨front', .statement notType reads⟩

/-- Derivable declarations and statements are read one after the other. -/
theorem DerivesItems.reads : ∀ {trees : List SyntaxTree} {input rest : List Token},
    DerivesItems trees input rest → ∀ {levels : Nat}, SyntaxTree.levelsAll trees ≤ levels →
    ∀ front : List Token, ∃ front', ∀ {stops : TokenStream → Bool}, GoesOn stops →
      ∀ {others : List ParseTree} {final : TokenStream},
        ReadsItems stops levels ⟨front', rest, stop⟩ others final →
        ReadsItems stops levels ⟨front, input, stop⟩ (SyntaxTree.readingAll trees ++ others) final
  | _, _, _, .nil, _, _, front => ⟨front, fun _ _ _ behind => behind⟩
  | _, _, _, .cons first others, _, fits, front => by
      have fits := Nat.max_le.mp fits
      obtain ⟨middle, item⟩ := first.reads fits.1 front
      obtain ⟨front', reads⟩ := others.reads fits.2 middle
      obtain ⟨token, behind, rfl, notBrace⟩ := first.exists_head
      refine ⟨front', fun goesOn _ _ after => .next (goesOn _ token behind rfl notBrace) item ?_⟩
      rw [SyntaxTree.rejection?_reading]
      exact reads goesOn after
end

end Completeness

/-! ## What is read without rejections is derivable -/

mutual
/-- **A statement that is read without a rejection is derivable.** -/
theorem Reads.exists_derivation : ∀ {levels : Nat} {stream final : TokenStream}
    {reading : ParseTree}, Reads levels stream reading final → reading.rejection? = none →
    reading.recorded = [] → ∃ tree : SyntaxTree, reading = tree.reading ∧
      DerivesStatement tree stream.rest final.rest ∧ tree.levels ≤ levels
  | _, _, _, _, .tooDeep, complete, _ => by cases complete
  | _, _, _, _, .read isKeyword isOpening isName isClosing isSemicolon, _, _ =>
      ⟨.read _ _, rfl, .read isKeyword isOpening isName isClosing isSemicolon,
        Nat.succ_le_succ (Nat.zero_le _)⟩
  | _, _, _, _, .write isKeyword isOpening isExpression isClosing isSemicolon, _, _ =>
      ⟨.write _ _, rfl, .write isKeyword isOpening isExpression isClosing isSemicolon,
        Nat.succ_le_succ (Nat.zero_le _)⟩
  | _, _, _, _, .ifThen isKeyword isOpening isExpression isClosing isThen consequence noElse,
      complete, clean => by
      rw [ParseTree.rejection?_ifThen] at complete
      obtain ⟨tree, rfl, derives, fits⟩ := consequence.exists_derivation complete clean
      exact ⟨.ifThen _ _ tree, rfl, .ifThen isKeyword isOpening isExpression isClosing isThen
        derives (noElse complete), Nat.succ_le_succ fits⟩
  | _, _, _, _, .ifThenElse isKeyword isOpening isExpression isClosing isThen consequence ended
      isElse alternative, complete, clean => by
      rw [ParseTree.rejection?_ifThenElse, ended, Option.none_or] at complete
      obtain ⟨cleanFirst, cleanSecond⟩ := List.append_eq_nil_iff.mp clean
      obtain ⟨first, rfl, derives, fits⟩ := consequence.exists_derivation ended cleanFirst
      obtain ⟨second, rfl, otherwise, room⟩ := alternative.exists_derivation complete cleanSecond
      exact ⟨.ifThenElse _ _ first second, rfl, .ifThenElse isKeyword isOpening isExpression
        isClosing isThen derives isElse otherwise, Nat.succ_le_succ (Nat.max_le.mpr ⟨fits, room⟩)⟩
  | _, _, _, _, .loop isKeyword isOpening isExpression isClosing block, _, clean => by
      obtain ⟨tree, rfl, derives, fits⟩ := block.exists_derivation clean
      exact ⟨.loop _ _ tree, rfl, .loop isKeyword isOpening isExpression isClosing derives, fits⟩
  | _, _, _, _, .block block, _, clean => by
      obtain ⟨tree, rfl, derives, fits⟩ := block.exists_derivation clean
      exact ⟨tree, rfl, .block derives, fits⟩
  | _, _, _, _, .expression isExpression isSemicolon other, _, _ =>
      ⟨.expression _ _, rfl, .expression isExpression isSemicolon other,
        Nat.succ_le_succ (Nat.zero_le _)⟩
  | _, _, _, _, .keywordFails _ _, complete, _ => by cases complete
  | _, _, _, _, .expressionFails _ _, complete, _ => by cases complete

theorem ReadsBlock.exists_derivation : ∀ {levels : Nat} {stream final : TokenStream}
    {reading : ParseTree}, ReadsBlock levels stream reading final → reading.recorded = [] →
    ∃ tree : SyntaxTree, reading = tree.reading ∧
      DerivesBlock tree stream.rest final.rest ∧ tree.levels ≤ levels + 1
  | _, _, _, _, .closed isOpening items isClosing, clean => by
      obtain ⟨trees, rfl, derives, fits⟩ := items.exists_derivation
        (List.append_eq_nil_iff.mp clean).1
      exact ⟨.block _ trees, rfl, .braces isOpening derives isClosing, Nat.succ_le_succ fits⟩
  | _, _, _, _, .unclosed isOpening items, clean => by
      cases (List.append_eq_nil_iff.mp clean).2

theorem ReadsItem.exists_derivation : ∀ {levels : Nat} {stream final : TokenStream}
    {reading : ParseTree}, ReadsItem levels stream reading final → reading.rejection? = none →
    reading.recorded = [] → ∃ tree : SyntaxTree, reading = tree.reading ∧
      DerivesItem tree stream.rest final.rest ∧ tree.levels ≤ levels
  | _, _, _, _, .declaration isType names isName isSemicolon, _, _ =>
      ⟨.declaration _ _ _ none, rfl, .declaration isType names isName isSemicolon, Nat.zero_le _⟩
  | _, _, _, _, .initialized isType names isName isSign isExpression isSemicolon, _, _ =>
      ⟨.declaration _ _ _ (some _), rfl,
        .initialized isType names isName isSign isExpression isSemicolon, Nat.zero_le _⟩
  | _, _, _, _, .nameless _ _ _, complete, _ => by cases complete
  | _, _, _, _, .unended _ _ _ _ _, complete, _ => by cases complete
  | _, _, _, _, .unendedInitial _ _ _ _ _, complete, _ => by cases complete
  | _, _, _, _, .statement notType statement, complete, clean => by
      obtain ⟨tree, rfl, derives, fits⟩ := statement.exists_derivation complete clean
      exact ⟨tree, rfl, .statement notType derives, fits⟩

/-- Items that are read without a rejection are derivable. -/
theorem ReadsItems.exists_derivation : ∀ {stops : TokenStream → Bool} {levels : Nat}
    {stream final : TokenStream} {readings : List ParseTree},
    ReadsItems stops levels stream readings final → ParseTree.recordedAll readings = [] →
    ∃ trees : List SyntaxTree, readings = SyntaxTree.readingAll trees ∧
      DerivesItems trees stream.rest final.rest ∧ SyntaxTree.levelsAll trees ≤ levels
  | _, _, _, _, _, .done _, _ => ⟨[], rfl, .nil, Nat.zero_le _⟩
  | _, _, _, _, _, .next _ item others, clean => by
      obtain ⟨cleanFirst, cleanOthers⟩ := List.append_eq_nil_iff.mp clean
      obtain ⟨cleanInside, notAbandoned⟩ := List.append_eq_nil_iff.mp cleanFirst
      have complete := Option.toList_eq_nil_iff.mp notAbandoned
      obtain ⟨tree, rfl, derives, fits⟩ := item.exists_derivation complete cleanInside
      rw [complete] at others
      obtain ⟨trees, rfl, derivesOthers, room⟩ := others.exists_derivation cleanOthers
      exact ⟨tree :: trees, rfl, .cons derives derivesOthers, Nat.max_le.mpr ⟨fits, room⟩⟩
end

/-! ## Programs -/

section Programs

variable {trees : List SyntaxTree}

/-- A derivable program runs as its derivation trees are read. -/
theorem DerivesProgram.run (stream : TokenStream)
    (derives : DerivesProgram maxNesting trees stream.rewound.rest) (policy : RedeclarationPolicy)
    (nesting : Nat) (findings : Findings) :
    ∃ final, ReadsProgram stream (SyntaxTree.readingAll trees) final ∧
      program policy (place stream nesting findings) =
        .ok (ParseTree.effectAll policy (SyntaxTree.readingAll trees) findings).1
          (place final 0
            ((ParseTree.effectAll policy (SyntaxTree.readingAll trees) findings).2.note
              (.parsed (ParseTree.effectAll policy (SyntaxTree.readingAll trees)
                findings).1.length))) := by
  obtain ⟨front', reads⟩ := derives.1.reads stream.stop derives.2 []
  have stopped := reads goesOn_atEnd (.done rfl)
  rw [List.append_nil] at stopped
  exact ⟨_, stopped, program_of_reads stopped policy nesting findings⟩

/-- A program that is parsed without a diagnostic about grammar is derivable. -/
theorem exists_derivation_of_program {stream : TokenStream} {policy : RedeclarationPolicy}
    {nesting : Nat} {findings : Findings} {statements : List Statement} {state : ParseState}
    (run : program policy (place stream nesting findings) = .ok statements state)
    (clean : state.findings.syntactic = findings.syntactic) :
    ∃ trees, DerivesProgram maxNesting trees stream.rewound.rest := by
  obtain ⟨readings, final, reads⟩ := exists_reads_of_program run
  cases run.symm.trans (program_of_reads reads policy nesting findings)
  have same : findings.syntactic ++ (ParseTree.recordedAll readings).map Rejection.diagnostic =
      findings.syntactic :=
    (ParseTree.effectAll_syntactic policy readings findings).symm.trans clean
  have none_recorded := List.map_eq_nil_iff.mp (List.append_right_eq_self.mp same)
  obtain ⟨trees, -, derives, fits⟩ := ReadsItems.exists_derivation reads none_recorded
  rw [reads.rest_eq_nil] at derives
  exact ⟨trees, derives, fits⟩

/-- A program that a fresh parser takes without a diagnostic about grammar is derivable. -/
theorem exists_derivation_of_clean_run {policy : RedeclarationPolicy} {tokens : List Token}
    {statements : List Statement} {state : ParseState}
    (run : program policy (.ofTokens tokens) = .ok statements state)
    (clean : state.diagnostics.ofCategory .syntactic = []) :
    ∃ trees, DerivesProgram maxNesting trees (programTokens tokens) := by
  rw [ofTokens_eq_place] at run
  exact exists_derivation_of_program run clean

/-- All derivations of the same tokens have the same records. -/
theorem DerivesItems.outlineAll_eq {others : List SyntaxTree} {tokens : List Token}
    (derives : DerivesItems trees tokens []) (derivesOthers : DerivesItems others tokens []) :
    SyntaxTree.outlineAll trees = SyntaxTree.outlineAll others := by
  -- With enough levels for both, the tokens are read as both, and run as they are read.
  have repeats {trees : List SyntaxTree} (derives : DerivesItems trees tokens []) {levels : Nat}
      (fits : SyntaxTree.levelsAll trees ≤ levels) :
      ∃ final, (repeatUntil TokenStream.atEnd
          (declarationOrStatement {} (statementWithin {} levels)))
          (place ⟨[], tokens, (TokenStream.ofTokens tokens).stop⟩ 0 .nothing) =
        .ok (ParseTree.effectAll {} (SyntaxTree.readingAll trees) .nothing).1 final := by
    obtain ⟨_, reads⟩ := derives.reads (TokenStream.ofTokens tokens).stop fits []
    have stopped := reads goesOn_atEnd (.done rfl)
    rw [List.append_nil] at stopped
    exact ⟨_, (stopped.run {} stopsAtEnd_atEnd 0 (fun _ _ => rfl) .nothing).repeatUntil⟩
  obtain ⟨_, first⟩ := repeats derives (Nat.le_max_left _ (SyntaxTree.levelsAll others))
  obtain ⟨_, second⟩ := repeats derivesOthers (Nat.le_max_right (SyntaxTree.levelsAll trees) _)
  have same := congrArg Statement.untypedAll (EStateM.Result.ok.inj (first.symm.trans second)).1
  rwa [ParseTree.effectAll_untyped, ParseTree.effectAll_untyped,
    SyntaxTree.outlineAll_readingAll, SyntaxTree.outlineAll_readingAll] at same

/-- What derives the tokens of a program that is parsed without a diagnostic about grammar has no
more levels than the parser has to spare. -/
theorem DerivesProgram.of_clean_run {policy : RedeclarationPolicy} {tokens : List Token}
    {statements : List Statement} {state : ParseState}
    (run : program policy (.ofTokens tokens) = .ok statements state)
    (clean : state.diagnostics.ofCategory .syntactic = [])
    (derives : DerivesItems trees (programTokens tokens) []) :
    DerivesProgram maxNesting trees (programTokens tokens) := by
  obtain ⟨others, derivesOthers, fits⟩ := exists_derivation_of_clean_run run clean
  have same := congrArg Statement.levelsAll (derives.outlineAll_eq derivesOthers)
  rw [SyntaxTree.levelsAll_outlineAll, SyntaxTree.levelsAll_outlineAll] at same
  exact ⟨derives, Nat.le_trans (Nat.le_of_eq same) fits⟩

/-- A derivable program is parsed without a diagnostic about grammar. -/
theorem DerivesProgram.exists_clean_run {tokens : List Token}
    (derives : DerivesProgram maxNesting trees (programTokens tokens))
    (policy : RedeclarationPolicy) :
    ∃ statements state, program policy (.ofTokens tokens) = .ok statements state ∧
      state.diagnostics.ofCategory .syntactic = [] := by
  obtain ⟨_, -, run⟩ := derives.run (.ofTokens tokens) policy 0 .nothing
  refine ⟨_, _, run, (ParseTree.effectAll_syntactic policy _ .nothing).trans ?_⟩
  rw [SyntaxTree.recordedAll_readingAll]
  rfl

/-- **The parser accepts exactly its grammar.** On tokens that spell the types they stand for, a
fresh parser has a result. It records no diagnostic about grammar if and only if the tokens in
front of the end of the input are derivable as a program with at most `maxNesting` statements open
at once. The records are then those of the derivation. -/
theorem program_accepts_iff (policy : RedeclarationPolicy) (tokens : List Token)
    (spelled : ∀ token ∈ programTokens tokens, token.NamesType) :
    ∃ statements state, program policy (.ofTokens tokens) = .ok statements state ∧
      (state.diagnostics.ofCategory .syntactic = [] ↔
        ∃ trees, DerivesProgram maxNesting trees (programTokens tokens)) ∧
      ∀ trees, DerivesProgram maxNesting trees (programTokens tokens) →
        statements.map Statement.untyped = SyntaxTree.outlineAll trees := by
  obtain ⟨readings, final, reads⟩ := exists_reads_of_namesType (.ofTokens tokens) spelled
  have run := program_of_reads reads policy 0 .nothing
  refine ⟨_, _, run, ⟨fun clean => ?_, fun ⟨trees, derives⟩ => ?_⟩, fun trees derives => ?_⟩
  · exact exists_derivation_of_clean_run run clean
  · obtain ⟨_, _, same, clean⟩ := derives.exists_clean_run policy
    cases run.symm.trans same
    exact clean
  · obtain ⟨_, -, same⟩ := derives.run (.ofTokens tokens) policy 0 .nothing
    have statements := (EStateM.Result.ok.inj (run.symm.trans same)).1
    rw [statements, ← Statement.untypedAll_eq_map, ParseTree.effectAll_untyped,
      SyntaxTree.outlineAll_readingAll]

/-- The tokens of a conditional with a block in a block. The value does not fit the variable in the
first assignment, and the variable in the second one is not declared. -/
def branchingTokens : List Token :=
  (tokenize "<string>"
    "long x; if (x) then \x7b x = 2.5; \x7b y = x; \x7d \x7d else write(x);").tokens

/-- They are parsed with four statements open at once, and with two diagnostics about names and
types, but none about grammar. -/
theorem exists_run_branchingTokens :
    ∃ statements state, program {} (.ofTokens branchingTokens) = .ok statements state ∧
      Statement.levelsAll (statements.map Statement.untyped) = 4 ∧
      (state.diagnostics.ofCategory .semantic).map Diagnostic.code = [some "S001", some "S010"] ∧
      state.diagnostics.ofCategory .syntactic = [] := by
  have levels : ((program {}).run' (.ofTokens branchingTokens)).map
      (fun statements => Statement.levelsAll (statements.map Statement.untyped)) = some 4 := by
    decide +kernel
  obtain ⟨statements, results, height⟩ := Option.map_eq_some_iff.mp levels
  exact ⟨statements, _, ok_of_run' results, height, by decide +kernel, by decide +kernel⟩

/-- A program with two diagnostics about names and types is accepted. -/
theorem program_accepts_branching :
    (∀ token ∈ programTokens branchingTokens, token.NamesType) ∧
      ∃ statements state trees, program {} (.ofTokens branchingTokens) = .ok statements state ∧
        (state.diagnostics.ofCategory .semantic).map Diagnostic.code = [some "S001", some "S010"] ∧
        DerivesProgram maxNesting trees (programTokens branchingTokens) ∧
        SyntaxTree.levelsAll trees = 4 ∧
        statements.map Statement.untyped = SyntaxTree.outlineAll trees := by
  have spelled : ∀ token ∈ programTokens branchingTokens, token.NamesType := by decide +kernel
  refine ⟨spelled, ?_⟩
  obtain ⟨statements, state, run, height, codes, clean⟩ := exists_run_branchingTokens
  obtain ⟨_, _, same, accepts, outlines⟩ := program_accepts_iff {} branchingTokens spelled
  cases run.symm.trans same
  obtain ⟨trees, derives⟩ := accepts.mp clean
  have outline := outlines trees derives
  rw [outline, SyntaxTree.levelsAll_outlineAll] at height
  exact ⟨statements, state, trees, run, codes, derives, height, outline⟩

/-- The tokens of `long x;`. -/
def declarationTokens : List Token :=
  [⟨.keyword .longType, "long", none, ⟨"<string>", 1, 1, 0⟩⟩,
    ⟨.identifier, "x", none, ⟨"<string>", 1, 6, 5⟩⟩,
    ⟨.operator .semicolon, ";", none, ⟨"<string>", 1, 7, 6⟩⟩]

/-- Each token of `long x;` spells the type it stands for. -/
theorem declarationTokens_namesType :
    ∀ token ∈ programTokens declarationTokens, token.NamesType := by decide

theorem derives_declarationTokens :
    ∃ trees, DerivesProgram maxNesting trees (programTokens declarationTokens) :=
  ⟨[_], .cons (@DerivesItem.declaration _ _ _ .long _ rfl rfl rfl rfl) .nil, Nat.zero_le _⟩

end Programs

end NumericLanguage
