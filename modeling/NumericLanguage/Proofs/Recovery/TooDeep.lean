import NumericLanguage.Proofs.Parsing.Capture
import NumericLanguage.Proofs.Reading.Diagnostics
import NumericLanguage.Proofs.Recovery.Skipping

/-!
# Blocks that are nested too deep

Where opening braces use up all levels, the next one is rejected and what it begins is skipped. That
rejection is the first one of all (`ReadsItems.rejectsFirst`). If no other one follows, the tokens
behind the skip close the open blocks one after the other, with declarations and statements in
between (`ClosesBlocks`). What is derived opens as many parentheses as it closes, and closing braces
alone derive nothing. So if an expression, a semicolon and closing braces stand between the opening
braces and the end of the input, the skip ended with the brace that closes the first one beyond the
limit, and the expression settles within the braces around it (`ClosesBlocks.settlesWithin`).
-/

set_option autoImplicit false

namespace NumericLanguage

open Parse

/-! ## Closing blocks -/

/-- Tokens close some open blocks, the innermost one first. In each of them, and behind all of them,
declarations and statements are derivable. -/
inductive ClosesBlocks : Nat → List Token → List Token → Prop
  | items {trees : List SyntaxTree} {tokens rest : List Token} :
      DerivesItems trees tokens rest → ClosesBlocks 0 tokens rest
  | block {blocks : Nat} {trees : List SyntaxTree} {tokens behind rest : List Token}
      {closing : Token} :
      ClosesBlocks blocks tokens (closing :: behind) → closing.kind = .operator .rightBrace →
      DerivesItems trees behind rest → ClosesBlocks (blocks + 1) tokens rest

/-- Nothing is derivable from closing braces alone. -/
theorem DerivesItems.eq_of_closings {trees : List SyntaxTree} {tokens rest : List Token}
    (derives : DerivesItems trees tokens rest)
    (closings : ∀ token ∈ tokens, token.kind = .operator .rightBrace) : rest = tokens := by
  cases derives with
  | nil => rfl
  | cons item _ =>
      obtain ⟨first, behind, rfl, notBrace⟩ := item.exists_head
      exact absurd (closings first List.mem_cons_self) notBrace

namespace ClosesBlocks

variable {blocks : Nat} {tokens rest : List Token}

/-- Of closing braces alone, each one closes a block. -/
theorem exists_front_of_closings (closes : ClosesBlocks blocks tokens rest)
    (closings : ∀ token ∈ tokens, token.kind = .operator .rightBrace) :
    ∃ front, tokens = front ++ rest ∧ front.length = blocks := by
  induction closes with
  | items derives => exact ⟨[], (derives.eq_of_closings closings).symm, rfl⟩
  | @block _ _ _ behind _ closing _ _ derives ih =>
      obtain ⟨front, rfl, rfl⟩ := ih closings
      obtain rfl := derives.eq_of_closings fun token inside =>
        closings token (List.mem_append_right _ (List.mem_cons_of_mem _ inside))
      exact ⟨front ++ [closing], by simp, List.length_append⟩

/-- Tokens that close blocks open as many parentheses as they close. -/
theorem openedParens_add (closes : ClosesBlocks blocks tokens rest) :
    openedParens tokens + closedParens rest = closedParens tokens + openedParens rest := by
  induction closes with
  | items derives => exact derives.openedParens_add
  | @block _ _ _ behind _ closing _ isClosing derives ih =>
      have behindBrace := derives.openedParens_add
      have opens : openedParens (closing :: behind) = openedParens behind := by
        simp [openedParens, isClosing]
      have closes : closedParens (closing :: behind) = closedParens behind := by
        simp [closedParens, isClosing]
      omega

end ClosesBlocks

/-! ## At an opening brace -/

section LeftBrace

variable {levels : Nat} {stream final : TokenStream} {reading : ParseTree} {opening : Token}
  {body : List Token}

/-- What begins with an opening brace is no declaration. -/
theorem ReadsItem.reads_of_leftBrace (reads : ReadsItem levels stream reading final)
    (begins : stream.rest = opening :: body) (isOpening : opening.kind = .operator .leftBrace) :
    Reads levels stream reading final := by
  have notType {first : Token} {behind : List Token} (same : first :: behind = opening :: body) :
      ¬ first.kind.isTypeName = true := by
    cases same
    simp [isOpening, TokenKind.isTypeName]
  cases reads with
  | declaration isType => exact absurd isType (notType begins)
  | initialized isType => exact absurd isType (notType begins)
  | nameless isType => exact absurd isType (notType begins)
  | unended isType => exact absurd isType (notType begins)
  | unendedInitial isType => exact absurd isType (notType begins)
  | statement _ statement => exact statement

/-- With a level to spare, what begins with an opening brace is a block. -/
theorem Reads.block_of_leftBrace (reads : Reads (levels + 1) stream reading final)
    (begins : stream.rest = opening :: body) (isOpening : opening.kind = .operator .leftBrace) :
    ReadsBlock levels stream reading final := by
  have notKeyword {first : Token} {behind : List Token} {word : Keyword}
      (same : first :: behind = opening :: body) : first.kind ≠ .keyword word := by
    cases same
    simp [isOpening]
  have selects : opening.kind.selectsStatement = true := by
    rw [isOpening]
    rfl
  cases reads with
  | read isKeyword => exact absurd isKeyword (notKeyword begins)
  | write isKeyword => exact absurd isKeyword (notKeyword begins)
  | ifThen isKeyword => exact absurd isKeyword (notKeyword begins)
  | ifThenElse isKeyword => exact absurd isKeyword (notKeyword begins)
  | loop isKeyword => exact absurd isKeyword (notKeyword begins)
  | block block => exact block
  | @expression _ _ tokens _ semicolon _ _ _ other =>
      have first : tokens.head?.getD semicolon = opening := by
        cases tokens <;> cases begins <;> rfl
      rw [first, selects] at other
      cases other
  | keywordFails isKeyword => exact absurd isKeyword (notKeyword begins)
  | expressionFails other =>
      rw [begins] at other
      cases (other opening rfl).symm.trans selects

/-- With no level to spare, it is rejected and skipped. -/
theorem Reads.eq_tooDeep (reads : Reads 0 stream reading final)
    (begins : stream.rest = opening :: body) :
    reading = .rejected ⟨.tooDeep maxNesting, opening⟩ ∧ final = stream.behindSkip := by
  cases reads with
  | tooDeep => exact ⟨by rw [TokenStream.peek, begins]; rfl, rfl⟩

end LeftBrace

/-! ## The first rejection -/

/-- Readings of which a rejection is the first that is recorded. If it is the only one, the tokens
behind it close some blocks. -/
structure RejectsFirst (rejection : Rejection) (blocks : Nat) (behind rest : List Token)
    (readings : List ParseTree) : Prop where
  reported : ∀ policy findings, Findings.Extends policy (findings.record rejection.diagnostic)
    (ParseTree.effectAll policy readings findings).2
  recorded : ∃ others, ParseTree.recordedAll readings = rejection :: others ∧
    (others = [] → ClosesBlocks blocks behind rest)

namespace RejectsFirst

open Findings

variable {stops : TokenStream → Bool} {levels blocks : Nat} {stream final : TokenStream}
  {behind rest last : List Token} {readings others : List ParseTree} {rejection : Rejection}

/-- A rejected item in front of others. -/
theorem rejected (reads : ReadsItems stops levels stream others final) (rejection : Rejection) :
    RejectsFirst rejection 0 stream.rest final.rest (.rejected rejection :: others) where
  reported policy _ := ParseTree.effectAll_extends policy others _
  recorded := by
    refine ⟨ParseTree.recordedAll others, rfl, fun clean => ?_⟩
    obtain ⟨trees, -, derives, -⟩ := reads.exists_derivation clean
    exact .items derives

/-- A block around such readings, in front of others. -/
theorem block (inside : RejectsFirst rejection blocks behind rest readings) (opening : Token)
    (missing : Option Token)
    (closes : missing = none → ParseTree.recordedAll others = [] →
      ClosesBlocks blocks behind rest → ClosesBlocks (blocks + 1) behind last) :
    RejectsFirst rejection (blocks + 1) behind last
      (.block opening readings missing :: others) where
  reported policy findings := by
    have entered : Extends policy (findings.record rejection.diagnostic)
        (findings.enter.record rejection.diagnostic) := .of_eq rfl
    have done := inside.reported policy findings.enter
    have closed := ParseTree.extends_close policy opening missing
      (ParseTree.effectAll policy readings findings.enter).2
    have left := closed.trans (.of_eq (diagnostics_leave _))
    exact entered.trans (done.trans (left.trans (ParseTree.effectAll_extends policy others _)))
  recorded := by
    obtain ⟨more, first, closesInside⟩ := inside.recorded
    let unclosed := missing.map fun found => (⟨.unclosedBlock opening.location, found⟩ : Rejection)
    have split : ParseTree.recordedAll (.block opening readings missing :: others) =
        rejection :: (more ++ (unclosed.toList ++ ParseTree.recordedAll others)) := by
      simp [ParseTree.recordedAll, ParseTree.recorded, ParseTree.rejection?, ParseTree.outline,
        first, unclosed]
    refine ⟨_, split, fun clean => ?_⟩
    obtain ⟨cleanInside, cleanBehind⟩ := List.append_eq_nil_iff.mp clean
    obtain ⟨closed, cleanOthers⟩ := List.append_eq_nil_iff.mp cleanBehind
    exact closes (by simpa [unclosed] using closed) cleanOthers (closesInside cleanInside)

end RejectsFirst

/-- A skip takes up an opening brace. -/
theorem TokenStream.position_lt_behindSkip (front body : List Token) {opening : Token}
    (stop : Token) (isOpening : opening.kind = .operator .leftBrace) :
    (⟨front, opening :: body, stop⟩ : TokenStream).position <
      (⟨front, opening :: body, stop⟩ : TokenStream).behindSkip.position := by
  have skips : skipped 0 (opening :: body) = opening :: skipped 1 body := by
    rw [skipped, if_neg (by simp [isOpening]), if_neg (by simp [isOpening]), if_pos isOpening]
  simp only [behindSkip, moveOver, position, skips, List.length_cons, List.take_succ_cons,
    List.length_append, List.length_reverse]
  omega

/-- **Where opening braces use up all levels, the next one is the first to be rejected.** -/
theorem ReadsItems.rejectsFirst {stops : TokenStream → Bool} {front outer body : List Token}
    {first stop : Token} {readings : List ParseTree} {final : TokenStream} (goesOn : GoesOn stops)
    (openings : ∀ token ∈ outer, token.kind = .operator .leftBrace)
    (isOpening : first.kind = .operator .leftBrace)
    (reads : ReadsItems stops outer.length ⟨front, outer ++ first :: body, stop⟩ readings final) :
    RejectsFirst ⟨.tooDeep maxNesting, first⟩ outer.length
      ((first :: body).drop (skipped 0 (first :: body)).length) final.rest readings := by
  induction outer generalizing stops front readings final with
  | nil =>
      cases reads with
      | done stopped =>
          rw [goesOn _ first body rfl (by simp [isOpening])] at stopped
          cases stopped
      | next _ item others =>
          obtain ⟨rfl, rfl⟩ := (item.reads_of_leftBrace rfl isOpening).eq_tooDeep rfl
          have moved := TokenStream.position_lt_behindSkip front body stop isOpening
          have stays := TokenStream.recovered_tooDeep moved first
          have behind : ReadsItems stops 0 (TokenStream.behindSkip ⟨front, first :: body, stop⟩) _
            final := stays ▸ others
          exact .rejected behind _
  | cons opening outer ih =>
      have isOpeningToo := openings opening List.mem_cons_self
      have inOuter : ∀ token ∈ outer, token.kind = .operator .leftBrace :=
        fun token inside => openings token (List.mem_cons_of_mem _ inside)
      cases reads with
      | done stopped =>
          rw [goesOn _ opening (outer ++ first :: body) rfl (by simp [isOpeningToo])] at stopped
          cases stopped
      | next _ item others =>
          have read := item.reads_of_leftBrace rfl isOpeningToo
          cases read.block_of_leftBrace rfl isOpeningToo with
          | closed _ items isClosing =>
              refine (ih goesOn_blockStops inOuter items).block _ _ fun _ clean closes => ?_
              obtain ⟨trees, -, derives, -⟩ := others.exists_derivation clean
              exact .block closes isClosing derives
          | unclosed _ items => exact (ih goesOn_blockStops inOuter items).block _ _ nofun

/-! ## Where the skip ended -/

/-- In front of a closing brace in an expression a parenthesis is open, so that more of them are
closed behind it than opened. -/
theorem IsExpression.openedParens_lt {front behind : List Token} {closing : Token}
    (isExpression : IsExpression (front ++ closing :: behind))
    (isClosing : closing.kind = .operator .rightBrace) :
    openedParens behind < closedParens behind := by
  have ends : closing.kind.endsExpression = true := by
    rw [isClosing]
    rfl
  have whole := isExpression.captured_append ends []
  rw [List.append_assoc, List.cons_append] at whole
  have inFront : front <+: captured 0 (front ++ closing :: (behind ++ [closing])) := by
    rw [whole]
    exact List.prefix_append front _
  have goesOn : openedParens front ≠ closedParens front := by
    intro same
    have stopped := (captured_eq_iff_of_begins inFront).mpr ⟨ends, same⟩
    exact absurd (whole.symm.trans stopped) (by simp)
  have counted := depthBehindRun_add_closedParens inFront
  have balanced := isExpression.balanced.openedParens_eq
  have opens : openedParens (closing :: behind) = openedParens behind := by
    simp [openedParens, isClosing]
  have closes : closedParens (closing :: behind) = closedParens behind := by
    simp [closedParens, isClosing]
  rw [openedParens_append, closedParens_append] at balanced
  omega

/-- A declaration is an expression and a semicolon. -/
theorem DerivesItem.exists_expression {typeToken name : Token} {type : ValueType}
    {initial : Option (List Token)} {tokens : List Token}
    (derives : DerivesItem (.declaration typeToken name type initial) tokens []) :
    ∃ expression semicolon, tokens = expression ++ [semicolon] ∧ IsExpression expression ∧
      semicolon.kind = .operator .semicolon := by
  have plain {token : Token} {others : List Token} {kind : TokenKind} (same : token.kind = kind)
      (other : kind ∉ [TokenKind.operator .leftParen, .operator .rightParen, .operator .semicolon,
        .operator .rightBrace])
      (isExpression : IsExpression others) : IsExpression (token :: others) := by
    subst same
    simp only [List.mem_cons, List.not_mem_nil, or_false, not_or] at other
    exact .plain ⟨other.1, other.2.1⟩ other.2.2.1 other.2.2.2 isExpression
  cases derives with
  | declaration isType _ isName isSemicolon =>
      refine ⟨[typeToken, name], _, rfl, plain rfl ?_ (plain isName (by decide) .nil), isSemicolon⟩
      simp [TokenKind.ne_operator_of_isTypeName isType]
  | @initialized _ _ sign semicolon _ initial _ isType _ isName isSign isExpression isSemicolon =>
      refine ⟨typeToken :: name :: sign :: initial, semicolon, rfl, plain rfl ?_
        (plain isName (by decide) (plain isSign (by decide) isExpression)), isSemicolon⟩
      simp [TokenKind.ne_operator_of_isTypeName isType]
  | statement _ statement =>
      cases statement with
      | block block => cases block

section Closings

variable {blocks depth : Nat} {expression closings : List Token} {semicolon : Token}

/-- A skip that ended inside of an expression left a parenthesis to be closed. -/
theorem ClosesBlocks.staysWithin (positive : 0 < depth) (isExpression : IsExpression expression)
    (isSemicolon : semicolon.kind = .operator .semicolon)
    (areClosing : ∀ token ∈ closings, token.kind = .operator .rightBrace)
    (closes : ClosesBlocks blocks ((expression ++ semicolon :: closings).drop
      (skipped depth (expression ++ semicolon :: closings)).length) []) :
    StaysWithin depth expression := by
  by_contra leaves
  obtain ⟨front, closing, behind, rfl, stays, isClosing, last⟩ :=
    exists_closing_of_not_staysWithin positive leaves
  have split : front ++ closing :: behind ++ semicolon :: closings =
      front ++ [closing] ++ (behind ++ semicolon :: closings) := by simp
  have skips := stays.skipped_closing isClosing last (behind ++ semicolon :: closings)
  rw [← List.singleton_append, ← List.append_assoc] at skips
  rw [split, skips, List.drop_left] at closes
  have noneOpened : openedParens (semicolon :: closings) = 0 := by
    simp +contextual [openedParens, isSemicolon, areClosing]
  have noneClosed : closedParens (semicolon :: closings) = 0 := by
    simp +contextual [closedParens, isSemicolon, areClosing]
  have counted := closes.openedParens_add
  rw [openedParens_append, closedParens_append, noneOpened, noneClosed] at counted
  have lost := isExpression.openedParens_lt isClosing
  exact absurd counted (Nat.ne_of_lt lost)

/-- **Blocks are closed with nothing left over only if the expression between them settles** within
the braces that were open where it began. -/
theorem ClosesBlocks.settlesWithin (someOpen : 0 < blocks) (positive : 0 < depth)
    (isExpression : IsExpression expression) (isSemicolon : semicolon.kind = .operator .semicolon)
    (areClosing : ∀ token ∈ closings, token.kind = .operator .rightBrace)
    (size : closings.length = blocks + depth)
    (closes : ClosesBlocks blocks ((expression ++ semicolon :: closings).drop
      (skipped depth (expression ++ semicolon :: closings)).length) []) :
    SettlesWithin depth expression := by
  have stays := closes.staysWithin positive isExpression isSemicolon areClosing
  refine ⟨stays, ?_⟩
  -- The skip goes on behind the expression, and takes a closing brace for each that is open there.
  obtain ⟨after, open_, counts⟩ : ∃ after, 0 < after ∧
      after + closedBraces expression = depth + openedBraces expression := by
    have fewer := stays expression (List.prefix_refl expression)
    exact ⟨depth + openedBraces expression - closedBraces expression, by omega, by omega⟩
  have skips : skipped depth (expression ++ semicolon :: closings) =
      expression ++ semicolon :: closings.take after := by
    have goesOver : skipped after (semicolon :: closings) = semicolon :: skipped after closings :=
      skipped_cons open_ open_ (by simp [openedBraces, closedBraces, isSemicolon]) closings
    rw [stays.skipped_append counts, goesOver, skipped_eq_take open_ fun token inside =>
      areClosing token (List.mem_of_mem_take inside)]
  have split : expression ++ semicolon :: closings =
      expression ++ semicolon :: closings.take after ++ closings.drop after := by simp
  rw [skips, split, List.drop_left] at closes
  obtain ⟨front, same, many⟩ := closes.exists_front_of_closings fun token inside =>
    areClosing token (List.mem_of_mem_drop inside)
  have left := congrArg List.length same
  rw [List.append_nil, List.length_drop, many, size] at left
  omega

end Closings

/-! ## Programs -/

/-- **Openings beyond the limit.** The rejection of the first of them is recorded first. If it is
the only diagnostic, the tokens behind the skip close as many blocks as may be open. -/
theorem exists_others_of_openings {policy : RedeclarationPolicy} {tokens openings rest : List Token}
    {statements : List Statement} {final : ParseState}
    (areOpening : ∀ token ∈ openings, token.kind = .operator .leftBrace)
    (beyond : maxNesting < openings.length) (split : programTokens tokens = openings ++ rest)
    (run : program policy (.ofTokens tokens) = .ok statements final) :
    ∃ others, final.diagnostics =
        Rejection.diagnostic ⟨.tooDeep maxNesting, openings[maxNesting]⟩ :: others ∧
      (others = [] → ClosesBlocks maxNesting
        (rest.drop (skipped (openings.length - maxNesting) rest).length) []) := by
  rw [ofTokens_eq_place] at run
  obtain ⟨readings, last, reads⟩ := exists_reads_of_program run
  cases run.symm.trans (program_of_reads reads policy 0 .nothing)
  have ended := reads.rest_eq_nil
  -- The outer braces use up all levels, and the first of the others is rejected.
  let outer := openings.take maxNesting
  let deep := openings.drop maxNesting
  have full : outer.length = maxNesting := List.length_take_of_le (Nat.le_of_lt beyond)
  have areDeep : ∀ token ∈ deep, token.kind = .operator .leftBrace :=
    fun token inside => areOpening token (List.mem_of_mem_drop inside)
  have first : deep = openings[maxNesting] :: openings.drop (maxNesting + 1) :=
    List.drop_eq_getElem_cons beyond
  have items : ReadsItems TokenStream.atEnd outer.length
      ⟨[], outer ++ (deep ++ rest), (TokenStream.ofTokens tokens).stop⟩ readings last := by
    rw [full, ← List.append_assoc, List.take_append_drop, ← split]
    exact reads
  rw [first, List.cons_append] at items
  have rejects := items.rejectsFirst goesOn_atEnd
    (fun token inside => areOpening token (List.mem_of_mem_take inside))
    (areOpening _ (List.getElem_mem beyond))
  rw [full, ← List.cons_append, ← first, drop_skipped_openings areDeep, List.length_drop,
    ended] at rejects
  obtain ⟨others, grown, -⟩ := rejects.reported policy .nothing
  obtain ⟨more, recorded, closes⟩ := rejects.recorded
  refine ⟨others, grown, fun only => closes ?_⟩
  -- What is recorded of the readings is all that is found about grammar.
  have syntactic := ParseTree.effectAll_syntactic policy readings .nothing
  rw [Findings.syntactic, grown, recorded, only] at syntactic
  exact List.map_eq_nil_iff.mp (List.cons.inj syntactic).2.symm

end NumericLanguage
