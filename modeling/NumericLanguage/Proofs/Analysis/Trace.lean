import NumericLanguage.Proofs.Analysis.Order

/-!
# The trace of an analysis

The statements of a report, each in front of those inside it, make up its trace. A statement stands
at the token it begins with, and its kind decides of which kind that token is, which statements may
be inside it, and which tokens its content spells out (`Statement.StandsAt`). In the trace each
statement stands further on than the one before (`analyze_trace`), also where parts of the program
were abandoned: what is abandoned leaves nothing behind, and recovery only moves on.

The invariant is about indices. The statements that a reading leaves in the trace stand at
increasing indices between the place where the reading begins and the one where it ends
(`Reads.trace`). Offsets increase with the indices, since the tokens of a text do.
-/

set_option autoImplicit false

namespace NumericLanguage

/-! ## What a statement is like at its token -/

namespace StatementKind

/-- A statement of some kind may begin with a token of another kind. -/
def BeginsWith : StatementKind → TokenKind → Prop
  | declaration, found => found = .keyword .longType ∨ found = .keyword .doubleType
  | read, found => found = .keyword .readWord
  | write, found => found = .keyword .writeWord
  | conditional, found => found = .keyword .ifWord
  | loop, found => found = .keyword .whileWord
  | block, found => found = .operator .leftBrace
  | expression, found =>
      found ∉ [.keyword .readWord, .keyword .writeWord, .keyword .ifWord, .keyword .whileWord,
        .operator .leftBrace, .operator .rightBrace, .operator .rightParen, .endOfInput]

/-- A statement of some kind may have statements of other kinds directly inside it. -/
def Holds : StatementKind → List StatementKind → Prop
  | conditional, inside => inside.length = 1 ∨ inside.length = 2
  | loop, inside => inside = [.block]
  | block, _ => True
  | _, inside => inside = []

/-- The expression that the content of a statement spells out, given the tokens from its first one
on: a `write` or a `while` has it behind a parenthesis. -/
def expression? (tokens : List Token) : StatementKind → Option (List Token)
  | expression => some (captured 0 tokens)
  | write | loop => some (captured 0 (tokens.drop 2))
  | _ => none

end StatementKind

/-- A statement is recorded at the token with a given index. -/
structure Statement.StandsAt (tokens : List Token) (index : Nat) (statement : Statement) :
    Prop where
  token : ∃ token, tokens[index]? = some token ∧ statement.location = token.location ∧
    statement.kind.BeginsWith token.kind
  inside : statement.kind.Holds (statement.children.map Statement.kind)
  content : ∀ run ∈ statement.kind.expression? (programTokens (tokens.drop index)),
    statement.content = Token.spelledOut run

namespace Statement

theorem map_kind_untypedAll (statements : List Statement) :
    (untypedAll statements).map Statement.kind = statements.map Statement.kind := by
  induction statements with
  | nil => rfl
  | cons first others ih =>
      obtain ⟨kind, content, location, type, target, children⟩ := first
      rw [untypedAll, List.map_cons, ih, List.map_cons, untyped]

mutual
/-- Types do not matter to the order in which statements are visited. -/
theorem walk_untyped : ∀ statement : Statement,
    statement.untyped.walk = statement.walk.map untyped
  | ⟨kind, content, location, type, target, children⟩ => by
      rw [untyped, walk, walkAll_untypedAll children, walk, List.map_cons, untyped]

theorem walkAll_untypedAll : ∀ statements : List Statement,
    walkAll (untypedAll statements) = (walkAll statements).map untyped
  | [] => rfl
  | first :: others => by
      rw [untypedAll, walkAll, walk_untyped first, walkAll_untypedAll others, walkAll,
        List.map_append]
end

/-- Types do not matter to where a statement stands. -/
theorem StandsAt.of_untyped {tokens : List Token} {index : Nat} {statement : Statement}
    (stands : statement.untyped.StandsAt tokens index) : statement.StandsAt tokens index := by
  obtain ⟨kind, content, location, type, target, children⟩ := statement
  refine ⟨stands.token, ?_, stands.content⟩
  rw [← map_kind_untypedAll]
  exact stands.inside

end Statement

/-! ## Statements at increasing indices -/

/-- Statements that stand at tokens of a list, each further on than the one before, from one index
up to another. -/
inductive Trace (tokens : List Token) : Nat → List Statement → Nat → Prop
  | nil {low high : Nat} : low ≤ high → Trace tokens low [] high
  | cons {low index high : Nat} {statement : Statement} {others : List Statement} :
      low ≤ index → statement.StandsAt tokens index → Trace tokens (index + 1) others high →
      Trace tokens low (statement :: others) high

namespace Trace

variable {tokens : List Token} {low middle high lower higher : Nat}
  {statements others : List Statement}

theorem le (trace : Trace tokens low statements high) : low ≤ high := by
  induction trace with
  | nil bound => exact bound
  | cons bound _ _ ih => exact Nat.le_trans bound (Nat.le_of_succ_le ih)

theorem mono (trace : Trace tokens low statements high) (fewer : lower ≤ low)
    (more : high ≤ higher) : Trace tokens lower statements higher := by
  induction trace generalizing lower with
  | nil bound => exact .nil (Nat.le_trans fewer (Nat.le_trans bound more))
  | cons bound stands _ ih =>
      exact .cons (Nat.le_trans fewer bound) stands (ih (Nat.le_refl _) more)

theorem append (first : Trace tokens low statements middle)
    (second : Trace tokens middle others high) : Trace tokens low (statements ++ others) high := by
  induction first with
  | nil bound => exact second.mono bound (Nat.le_refl _)
  | cons bound stands _ ih => exact .cons bound stands (ih second)

/-- Types do not matter to the trace. -/
theorem of_untyped (trace : Trace tokens low (statements.map Statement.untyped) high) :
    Trace tokens low statements high := by
  induction statements generalizing low with
  | nil =>
      cases trace with
      | nil bound => exact .nil bound
  | cons statement others ih =>
      cases trace with
      | cons bound stands behind => exact .cons bound stands.of_untyped (ih behind)

/-- A statement of the trace stands at an index in its range. -/
theorem exists_index {statement : Statement} (trace : Trace tokens low statements high)
    (inside : statement ∈ statements) :
    ∃ index, low ≤ index ∧ statement.StandsAt tokens index := by
  induction trace with
  | nil => cases inside
  | cons bound stands _ ih =>
      rcases List.mem_cons.mp inside with rfl | behind
      · exact ⟨_, bound, stands⟩
      · obtain ⟨index, further, standsToo⟩ := ih behind
        exact ⟨index, by omega, standsToo⟩

/-- The offsets of statements increase if those of the tokens do. -/
theorem ascending (trace : Trace tokens low statements high)
    (increasing : tokens.Pairwise fun earlier later =>
      earlier.location.offset < later.location.offset) :
    statements.Pairwise fun earlier later =>
      earlier.location.offset < later.location.offset := by
  induction trace with
  | nil => exact List.Pairwise.nil
  | @cons low index high statement others bound stands behind ih =>
      refine List.Pairwise.cons (fun other inside => ?_) ih
      obtain ⟨further, after, standsToo⟩ := behind.exists_index inside
      obtain ⟨token, found, location, -⟩ := stands.token
      obtain ⟨last, foundToo, locationToo, -⟩ := standsToo.token
      obtain ⟨inRange, rfl⟩ := List.getElem?_eq_some_iff.mp found
      obtain ⟨inRangeToo, rfl⟩ := List.getElem?_eq_some_iff.mp foundToo
      rw [location, locationToo]
      exact List.pairwise_iff_getElem.mp increasing index further inRange inRangeToo after

end Trace

/-! ## Headings -/

/-- The tokens from a place on, up to the one that ends the input, are those of the stream. -/
theorem Within.programTokens_drop {tokens : List Token} {place : TokenStream}
    (within : Within tokens place) : programTokens (tokens.drop place.position) = place.rest := by
  have goOn : ∀ token ∈ place.rest, (!token.isEnd) = true := by
    intro token member
    simpa [Token.isEnd] using within.inside token member
  have stops : (!place.stop.isEnd) = false := by simp [Token.isEnd, within.stop]
  rw [← within.whole, TokenStream.position, ← List.length_reverse, List.drop_left, programTokens,
    List.takeWhile_append_of_pos goOn, List.takeWhile_cons_of_neg (by simp [stops]),
    List.append_nil]

/-- A record stands where its first token comes next. -/
theorem Heading.standsAt {tokens : List Token} {place : TokenStream} (heading : Heading)
    {children : List Statement} (within : Within tokens place)
    (next : place.rest.head? = some heading.anchor)
    (begins : heading.kind.BeginsWith heading.anchor.kind)
    (inside : heading.kind.Holds (children.map Statement.kind))
    (content : ∀ run ∈ heading.kind.expression? place.rest,
      heading.content children = Token.spelledOut run) :
    (heading.toStatement none children).StandsAt tokens place.position where
  token := by
    refine ⟨heading.anchor, ?_, rfl, begins⟩
    rw [within.getElem?_next, TokenStream.peek, next, Option.getD_some]
  inside := inside
  content := by
    rw [within.programTokens_drop]
    exact content

/-- A type name begins a declaration. -/
theorem TokenKind.beginsWith_declaration {found : TokenKind} (isType : found.isTypeName = true) :
    StatementKind.BeginsWith .declaration found := by
  unfold isTypeName at isType
  split at isType
  · exact .inl rfl
  · exact .inr rfl
  · cases isType

/-- The first token of an expression in front of a semicolon, or else the semicolon, begins an
expression statement unless it selects a production of its own. -/
theorem IsExpression.beginsWith {expression : List Token} (isExpression : IsExpression expression)
    {semicolon : Token} (isSemicolon : semicolon.kind = .operator .semicolon)
    (goesOn : ∀ token ∈ expression, token.kind ≠ .endOfInput)
    (other : (expression.head?.getD semicolon).kind.selectsStatement = false) :
    StatementKind.BeginsWith .expression (expression.head?.getD semicolon).kind := by
  have plain : ∀ found : TokenKind, found.selectsStatement = false → found ≠ .endOfInput →
      found ≠ .operator .rightBrace → found ≠ .operator .rightParen →
      StatementKind.BeginsWith .expression found := by
    intro found selects notEnd notBrace notParen listed
    simp only [List.mem_cons, List.not_mem_nil, or_false] at listed
    rcases listed with rfl | rfl | rfl | rfl | rfl | same | same | same
    · cases selects
    · cases selects
    · cases selects
    · cases selects
    · cases selects
    · exact notBrace same
    · exact notParen same
    · exact notEnd same
  cases isExpression with
  | nil =>
      refine plain _ other ?_ ?_ ?_ <;> simp [isSemicolon]
  | plain isPlain _ notBrace _ =>
      exact plain _ other (goesOn _ List.mem_cons_self) notBrace isPlain.2
  | group isOpening _ _ _ =>
      refine plain _ other ?_ ?_ ?_ <;> simp [isOpening]

/-! ## Traces of readings -/

namespace Trace

open ParseTree

variable {tokens : List Token} {low index high : Nat}

/-- A statement stands alone. -/
theorem one {statement : Statement} (stands : statement.StandsAt tokens index)
    (leaf : statement.children = []) (bound : index < high) :
    Trace tokens index (Statement.walkAll [statement]) high := by
  rw [Statement.walkAll_cons, leaf]
  exact .cons (Nat.le_refl _) stands (.nil bound)

/-- A statement stands in front of those inside it. -/
theorem above {statement : Statement} (stands : statement.StandsAt tokens index)
    (bound : index < low) (inside : Trace tokens low (Statement.walkAll statement.children) high) :
    Trace tokens index (Statement.walkAll [statement]) high := by
  rw [Statement.walkAll_cons, Statement.walkAll, List.append_nil]
  exact .cons (Nat.le_refl _) stands (inside.mono bound (Nat.le_refl _))

/-- A statement stands in front of the one inside it, and is abandoned together with it. -/
theorem above_map (heading : Heading) {outcome : Except Rejection Statement}
    (stands : ∀ first, outcome = .ok first →
      (heading.toStatement none [first]).StandsAt tokens index)
    (bound : index < low)
    (inside : Trace tokens low (Statement.walkAll outcome.toOption.toList) high) :
    Trace tokens index (Statement.walkAll
      (outcome.map fun first => heading.toStatement none [first]).toOption.toList) high := by
  cases outcome with
  | error rejection => exact .nil (Nat.le_trans (Nat.le_of_lt bound) inside.le)
  | ok first => exact above (stands first rfl) bound inside

/-- A statement stands in front of the two inside it, and is abandoned together with the second. -/
theorem above_map₂ (heading : Heading) {first : Statement} {middle next : Nat}
    {outcome : Except Rejection Statement}
    (stands : ∀ second, outcome = .ok second →
      (heading.toStatement none [first, second]).StandsAt tokens index)
    (bound : index < low) (inFront : Trace tokens low (Statement.walkAll [first]) middle)
    (inBack : Trace tokens next (Statement.walkAll outcome.toOption.toList) high)
    (behind : middle ≤ next) :
    Trace tokens index (Statement.walkAll
      (outcome.map fun second => heading.toStatement none [first, second]).toOption.toList)
      high := by
  have further := Nat.le_trans inFront.le behind
  cases outcome with
  | error rejection => exact .nil (by have := inBack.le; omega)
  | ok second =>
      have inside := inFront.append (inBack.mono behind (Nat.le_refl _))
      rw [← Statement.walkAll_append] at inside
      exact above (stands second rfl) bound inside

end Trace

section Readings

open TokenStream

variable {tokens : List Token}

/-- A reading that was not abandoned has an outline. -/
theorem ParseTree.exists_outline {reading : ParseTree} (complete : reading.rejection? = none) :
    ∃ statement, reading.outline = .ok statement := by
  unfold rejection? at complete
  cases outcome : reading.outline with
  | error rejection =>
      rw [outcome] at complete
      cases complete
  | ok statement => exact ⟨statement, rfl⟩

/-- A block is recorded as a block. -/
theorem ReadsBlock.kind_outline {levels : Nat} {place final : TokenStream} {reading : ParseTree}
    (reads : ReadsBlock levels place reading final) {statement : Statement}
    (done : reading.outline = .ok statement) : statement.kind = .block := by
  cases reads with
  | closed =>
      cases done
      rfl
  | unclosed =>
      cases done
      rfl

mutual
/-- **The statements that a reading leaves in the trace** stand at increasing indices between its
places. -/
theorem Reads.trace : ∀ {levels : Nat} {place final : TokenStream} {reading : ParseTree},
    Reads levels place reading final → Within tokens place →
    Trace tokens place.position (Statement.walkAll reading.outline.toOption.toList) final.position
  | _, _, _, _, .tooDeep, _ => .nil (Moves.moveOver _ _).position_le
  | _, _, _, _, @Reads.read _ front _ keyword _ name _ _ _ isRead .., within => by
      refine .one (Heading.standsAt (.read keyword name) within rfl isRead rfl nofun) rfl ?_
      simp only [position, List.length_cons]
      omega
  | _, _, _, _, @Reads.write _ front expression rest keyword opening closing semicolon stop isWrite
      _ isExpression isClosing _, within => by
      refine .one (Heading.standsAt (.write keyword expression) within rfl isWrite rfl ?_) rfl ?_
      · rintro run ⟨⟩
        exact congrArg Token.spelledOut
          (isExpression.captured_append (by rw [isClosing]; rfl) _).symm
      · simp only [position, List.length_cons, List.length_append, List.length_reverse]
        omega
  | _, _, _, _, @Reads.ifThen _ front condition body keyword opening closing thenToken stop
      consequence final isIf _ _ _ _ inner _, within => by
      have inside := inner.trace (within.moved ((Moves.condition ..).trans (.one ..)))
      refine .above_map (.ifThen keyword condition) (fun first _ =>
        Heading.standsAt _ within rfl isIf (.inl rfl) nofun) ?_ inside
      simp only [position, List.length_cons, List.length_append, List.length_reverse]
      omega
  | _, _, _, _, @Reads.ifThenElse _ front condition body front' behind keyword opening closing
      thenToken elseToken stop stop' consequence alternative final isIf _ _ _ _ first complete _
      second, within => by
      have atBody := within.moved ((Moves.condition ..).trans (.one ..))
      have inFront := first.trace atBody
      have inBack := second.trace (atBody.moved (first.moves.trans (.one ..)))
      obtain ⟨statement, done⟩ := ParseTree.exists_outline complete
      rw [ParseTree.outline, done]
      rw [done] at inFront
      refine .above_map₂ (.ifThenElse keyword condition) (fun other _ =>
        Heading.standsAt _ within rfl isIf (.inr rfl) nofun) ?_ inFront inBack (Nat.le_succ _)
      simp only [position, List.length_cons, List.length_append, List.length_reverse]
      omega
  | _, _, _, _, @Reads.loop _ front condition body keyword opening closing stop block final isWhile
      _ isExpression isClosing inner, within => by
      have inside := inner.trace (within.moved (Moves.condition ..))
      refine .above_map (.loop keyword condition) (fun first done =>
        Heading.standsAt _ within rfl isWhile (congrArg (· :: []) (inner.kind_outline done)) ?_)
        ?_ inside
      · rintro run ⟨⟩
        exact congrArg Token.spelledOut
          (isExpression.captured_append (by rw [isClosing]; rfl) _).symm
      · simp only [position, List.length_cons, List.length_append, List.length_reverse]
        omega
  | _, _, _, _, .block block, within => block.trace within
  | _, _, _, _, @Reads.expression _ front run rest semicolon stop isExpression isSemicolon other,
      within => by
      have next : (run ++ semicolon :: rest).head? = some (run.head?.getD semicolon) := by
        cases run <;> rfl
      have goesOn : ∀ token ∈ run, token.kind ≠ .endOfInput :=
        fun token member => within.inside token (List.mem_append_left _ member)
      refine .one (Heading.standsAt (.expression run semicolon) within next
        (isExpression.beginsWith isSemicolon goesOn other) rfl ?_) rfl ?_
      · rintro captured ⟨⟩
        exact congrArg Token.spelledOut
          (isExpression.captured_append (by rw [isSemicolon]; rfl) _).symm
      · simp only [position, List.length_cons, List.length_append, List.length_reverse]
        omega
  | _, _, _, _, .keywordFails _ fails, _ =>
      .nil (Nat.le_of_succ_le fails.moves.position_le)
  | _, _, _, _, .expressionFails _ fails, _ => .nil fails.moves.position_le

theorem ReadsBlock.trace : ∀ {levels : Nat} {place final : TokenStream} {reading : ParseTree},
    ReadsBlock levels place reading final → Within tokens place →
    Trace tokens place.position (Statement.walkAll reading.outline.toOption.toList) final.position
  | _, _, _, _, @ReadsBlock.closed _ _ _ _ _ opening _ _ _ _ isOpening inner _, within => by
      have inside := inner.trace (within.moved (.one ..))
      exact .above (Heading.standsAt (.block opening) within rfl isOpening trivial nofun)
        (Nat.lt_succ_self _) (inside.mono (Nat.le_refl _) (Nat.le_succ _))
  | _, _, _, _, @ReadsBlock.unclosed _ _ _ _ opening _ _ _ isOpening inner, within =>
      .above (Heading.standsAt (.block opening) within rfl isOpening trivial nofun)
        (Nat.lt_succ_self _) (inner.trace (within.moved (.one ..)))

theorem ReadsItem.trace : ∀ {levels : Nat} {place final : TokenStream} {reading : ParseTree},
    ReadsItem levels place reading final → Within tokens place →
    Trace tokens place.position (Statement.walkAll reading.outline.toOption.toList) final.position
  | _, _, _, _, @ReadsItem.declaration _ front _ typeToken name _ _ _ isType .., within => by
      refine .one (Heading.standsAt (.declaration typeToken name none) within rfl
        (TokenKind.beginsWith_declaration isType) rfl nofun) rfl ?_
      simp only [position, List.length_cons]
      omega
  | _, _, _, _, @ReadsItem.initialized _ front initial _ typeToken name _ _ _ _ isType ..,
      within => by
      refine .one (Heading.standsAt (.declaration typeToken name (some initial)) within rfl
        (TokenKind.beginsWith_declaration isType) rfl nofun) rfl ?_
      simp only [position, List.length_cons, List.length_append, List.length_reverse]
      omega
  | _, _, _, _, .nameless _ _ fails, _ => .nil (Nat.le_of_succ_le fails.moves.position_le)
  | _, _, _, _, .unended _ _ _ _ fails, _ =>
      .nil (Nat.le_trans (Nat.le_add_right _ 2) fails.moves.position_le)
  | _, _, _, _, .unendedInitial _ _ _ _ fails, _ =>
      .nil (Nat.le_trans (Nat.le_add_right _ 3) fails.moves.position_le)
  | _, _, _, _, .statement _ statement, within => statement.trace within

theorem ReadsItems.trace : ∀ {stops : TokenStream → Bool} {levels : Nat}
    {place final : TokenStream} {readings : List ParseTree},
    ReadsItems stops levels place readings final → Within tokens place →
    Trace tokens place.position (Statement.walkAll (ParseTree.outlineAll readings)) final.position
  | _, _, _, _, _, .done _, _ => .nil (Nat.le_refl _)
  | _, _, _, _, _, .next _ item others, within => by
      have first := item.trace within
      have second := others.trace (within.moved (item.moves.trans (moves_recovered _ _ _)))
      rw [ParseTree.outlineAll, Statement.walkAll_append]
      exact first.append (second.mono (moves_recovered _ _ _).position_le (Nat.le_refl _))
end

end Readings

/-! ## The trace of a report -/

/-- The statements of a program leave a trace in its tokens. -/
theorem ReadsProgram.trace {tokens : List Token} {readings : List ParseTree} {final : TokenStream}
    (reads : ReadsProgram (.ofTokens tokens) readings final)
    (within : Within tokens (.ofTokens tokens)) (policy : RedeclarationPolicy)
    (findings : Findings) :
    Trace tokens 0 (Statement.walkAll (ParseTree.effectAll policy readings findings).1)
      final.position := by
  have trace := ReadsItems.trace reads within
  rw [← ParseTree.effectAll_untyped policy readings findings,
    Statement.walkAll_untypedAll] at trace
  exact trace.of_untyped

/-- An analysis has a report whose statements leave a trace in the tokens of the text. -/
theorem exists_trace (options : AnalysisOptions) (source : String) :
    ∃ report high, analyze options source = .ok report ∧
      report.tokens = (tokenize options.file source).tokens ∧
      Trace report.tokens 0 (Statement.walkAll report.statements) high := by
  obtain ⟨readings, final, reads⟩ := exists_reads_of_source options.file source
  by_cases parses : options.Parses source
  · have within := Within.of_tokenize options.file source
    exact ⟨_, final.position, analyze_of_reads reads parses, rfl,
      reads.trace within options.redeclarations (options.begun source)⟩
  · exact ⟨_, 0, analyze_of_stop parses, rfl, .nil (Nat.le_refl 0)⟩

/-- What holds of the trace of a report. -/
structure Report.Traced (report : Report) : Prop where
  /-- Each statement stands further on than the one before. -/
  ascending : (report.statements.flatMap Statement.walk).Pairwise fun earlier later =>
    earlier.location.offset < later.location.offset
  /-- A statement is located at a token of the kind that its own kind demands. -/
  located : ∀ statement ∈ report.statements.flatMap Statement.walk, ∃ token ∈ report.tokens,
    statement.location = token.location ∧ statement.kind.BeginsWith token.kind
  /-- A statement has as many statements inside it, and of such kinds, as its own kind admits. -/
  inside : ∀ statement ∈ report.statements.flatMap Statement.walk,
    statement.kind.Holds (statement.children.map Statement.kind)

/-- **The trace is in source order, and its statements stand where they say**, for every text and
under all options, also where parts of the program were abandoned. -/
theorem analyze_trace (options : AnalysisOptions) (source : String) :
    ∃ report, analyze options source = .ok report ∧ report.Traced := by
  obtain ⟨report, high, run, tokens, trace⟩ := exists_trace options source
  refine ⟨report, run, ?_, ?_, ?_⟩
  · rw [← Statement.walkAll_eq_flatMap]
    refine trace.ascending ?_
    rw [tokens]
    exact tokens_ascending options.file source
  · intro statement member
    rw [← Statement.walkAll_eq_flatMap] at member
    obtain ⟨index, -, stands⟩ := trace.exists_index member
    obtain ⟨token, found, agrees⟩ := stands.token
    exact ⟨token, List.mem_of_getElem? found, agrees⟩
  · intro statement member
    rw [← Statement.walkAll_eq_flatMap] at member
    obtain ⟨index, -, stands⟩ := trace.exists_index member
    exact stands.inside

end NumericLanguage
