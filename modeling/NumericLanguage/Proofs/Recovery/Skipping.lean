import NumericLanguage.Proofs.Grammar.Acceptance
import NumericLanguage.Proofs.Grammar.Extent
import NumericLanguage.Proofs.Grammar.Runs
import NumericLanguage.Proofs.Recovery.BraceDepth
import NumericLanguage.Proofs.Scoping.Frame

/-!
# Skipped statements

A statement for which no level is left is skipped without being parsed: up to its first semicolon,
or over its first braces, whichever comes first. Two notions of where a statement ends meet here,
and they do not always agree. A skip stops short behind the consequence of a conditional with an
alternative (`skip_leaves_alternative`), and behind a semicolon in an expression in front of the
first brace.

Where neither occurs (`SyntaxTree.SkipsWhole`) a statement is discarded whole
(`DerivesStatement.skipped_append`): its braces are balanced, one rejection is recorded, and parsing
goes on behind it. If no expression in it holds a brace, these are the only statements for which
that is so, and of all others the skip leaves something behind (`skip_agrees_iff`).
-/

set_option autoImplicit false

namespace NumericLanguage

open Parse ParseState

/-! ## Runs without semicolons and braces -/

/-- A run over which a skip goes on, outside of braces. -/
def IsFlat (run : List Token) : Prop :=
  ∀ token ∈ run, token.kind ≠ .operator .semicolon ∧ token.kind ≠ .operator .leftBrace ∧
    token.kind ≠ .operator .rightBrace

/-- A run without braces. -/
def Braceless (run : List Token) : Prop :=
  ∀ token ∈ run, token.kind ≠ .operator .leftBrace ∧ token.kind ≠ .operator .rightBrace

namespace IsFlat

variable {run more : List Token} {token : Token}

theorem nil : IsFlat [] := fun _ inside => absurd inside List.not_mem_nil

theorem cons (notSemicolon : token.kind ≠ .operator .semicolon)
    (notLeft : token.kind ≠ .operator .leftBrace) (notRight : token.kind ≠ .operator .rightBrace)
    (flat : IsFlat run) : IsFlat (token :: run) := by
  intro other inside
  rcases List.mem_cons.mp inside with rfl | behind
  · exact ⟨notSemicolon, notLeft, notRight⟩
  · exact flat other behind

/-- A keyword, a name or a parenthesis in front of a flat run. -/
theorem cons_of_eq {kind : TokenKind} (same : token.kind = kind)
    (plain : kind ∉ [TokenKind.operator .semicolon, .operator .leftBrace, .operator .rightBrace])
    (flat : IsFlat run) : IsFlat (token :: run) := by
  subst same
  simp only [List.mem_cons, List.not_mem_nil, or_false, not_or] at plain
  exact flat.cons plain.1 plain.2.1 plain.2.2

theorem append (flat : IsFlat run) (others : IsFlat more) : IsFlat (run ++ more) := by
  intro token inside
  rcases List.mem_append.mp inside with inFront | behind
  · exact flat token inFront
  · exact others token behind

/-- A skip goes over a flat run. -/
theorem skipped_append (flat : IsFlat run) (rest : List Token) :
    skipped 0 (run ++ rest) = run ++ skipped 0 rest := by
  induction run with
  | nil => rfl
  | cons token run ih =>
      obtain ⟨notSemicolon, notLeft, notRight⟩ := flat token List.mem_cons_self
      rw [List.cons_append, skipped, if_neg notRight, if_neg notSemicolon, if_neg notLeft,
        ih fun other inside => flat other (List.mem_cons_of_mem _ inside), List.cons_append]

/-- A skip ends with the semicolon behind a flat run. -/
theorem skipped_semicolon (flat : IsFlat run) {semicolon : Token}
    (isSemicolon : semicolon.kind = .operator .semicolon) (rest : List Token) :
    skipped 0 (run ++ semicolon :: rest) = run ++ [semicolon] := by
  rw [flat.skipped_append, skipped, if_neg (by simp [isSemicolon]), if_pos isSemicolon]

end IsFlat

/-- A run without braces is flat, or a flat run and a semicolon are in front in it. -/
theorem Braceless.isFlat_or_exists {run : List Token} (braceless : Braceless run) :
    IsFlat run ∨ ∃ front semicolon behind, run = front ++ semicolon :: behind ∧ IsFlat front ∧
      semicolon.kind = .operator .semicolon := by
  induction run with
  | nil => exact .inl .nil
  | cons token run ih =>
      obtain ⟨notLeft, notRight⟩ := braceless token List.mem_cons_self
      by_cases isSemicolon : token.kind = .operator .semicolon
      · exact .inr ⟨[], token, run, rfl, .nil, isSemicolon⟩
      · rcases ih fun other inside => braceless other (List.mem_cons_of_mem _ inside) with
          flat | ⟨front, semicolon, behind, rfl, flat, isSemicolonToo⟩
        · exact .inl (flat.cons isSemicolon notLeft notRight)
        · exact .inr ⟨token :: front, semicolon, behind, rfl,
            flat.cons isSemicolon notLeft notRight, isSemicolonToo⟩

/-! ## Runs with balanced braces -/

/-- A run of tokens whose braces are balanced. -/
inductive BracesBalanced : List Token → Prop
  | nil : BracesBalanced []
  | plain {token : Token} {rest : List Token} :
      token.kind ≠ .operator .leftBrace → token.kind ≠ .operator .rightBrace →
      BracesBalanced rest → BracesBalanced (token :: rest)
  | group {opening closing : Token} {inside rest : List Token} :
      opening.kind = .operator .leftBrace → BracesBalanced inside →
      closing.kind = .operator .rightBrace → BracesBalanced rest →
      BracesBalanced (opening :: (inside ++ closing :: rest))

namespace BracesBalanced

variable {run more : List Token} {token : Token}

theorem append (balanced : BracesBalanced run) (others : BracesBalanced more) :
    BracesBalanced (run ++ more) := by
  induction balanced with
  | nil => exact others
  | plain notLeft notRight _ ih => exact .plain notLeft notRight ih
  | group isOpening inside isClosing _ _ ih =>
      rw [List.cons_append, List.append_assoc, List.cons_append]
      exact .group isOpening inside isClosing ih

theorem of_braceless (braceless : Braceless run) : BracesBalanced run := by
  induction run with
  | nil => exact .nil
  | cons token run ih =>
      obtain ⟨notLeft, notRight⟩ := braceless token List.mem_cons_self
      exact .plain notLeft notRight
        (ih fun other inside => braceless other (List.mem_cons_of_mem _ inside))

theorem of_isFlat (flat : IsFlat run) : BracesBalanced run :=
  of_braceless fun token inside => (flat token inside).2

/-- A token that is no brace in front of a balanced run. -/
theorem cons_of_eq {kind : TokenKind} (same : token.kind = kind)
    (plain : kind ∉ [TokenKind.operator .leftBrace, .operator .rightBrace])
    (balanced : BracesBalanced run) : BracesBalanced (token :: run) := by
  subst same
  simp only [List.mem_cons, List.not_mem_nil, or_false, not_or] at plain
  exact .plain plain.1 plain.2 balanced

/-- Behind a balanced run the same braces are open as in front of it. -/
theorem settlesWithin (balanced : BracesBalanced run) {depth : Nat} (positive : 0 < depth) :
    SettlesWithin depth run := by
  induction balanced generalizing depth with
  | nil => exact .nil positive
  | plain notLeft notRight _ ih => exact .plain notLeft notRight (ih positive)
  | group isOpening _ isClosing _ ihInside ihRest =>
      have group := (ihInside (Nat.succ_pos depth)).braces positive isOpening isClosing
      have behind := group.append (ihRest positive)
      rwa [List.cons_append, List.append_assoc] at behind

end BracesBalanced

/-! ## Statements that are skipped as a whole -/

namespace SyntaxTree

/-- A statement without an alternative in front of its first semicolon or brace, whose expressions
in front of them are flat, and those inside of its braces balanced. -/
def SkipsWhole : SyntaxTree → Prop
  | declaration _ _ _ _ => False
  | read _ _ => True
  | write _ tokens => IsFlat tokens
  | ifThen _ condition consequence => IsFlat condition ∧ consequence.SkipsWhole
  | ifThenElse _ _ _ _ => False
  | loop _ condition body => IsFlat condition ∧ body.SkipsWhole
  | block _ items => ∀ run ∈ expressionsAll items, BracesBalanced run
  | expression tokens _ => IsFlat tokens

end SyntaxTree

/-- The expressions of a statement that is skipped as a whole have balanced braces. -/
theorem SyntaxTree.SkipsWhole.bracesBalanced : ∀ {tree : SyntaxTree}, tree.SkipsWhole →
    ∀ run ∈ tree.expressions, BracesBalanced run
  | .declaration .., whole => whole.elim
  | .read .., _ => nofun
  | .write .., flat => by
      intro run inside
      obtain rfl := List.mem_singleton.mp inside
      exact .of_isFlat flat
  | .ifThen .., ⟨flat, whole⟩ => by
      intro run inside
      rcases List.mem_cons.mp inside with rfl | behind
      · exact .of_isFlat flat
      · exact whole.bracesBalanced run behind
  | .ifThenElse .., whole => whole.elim
  | .loop .., ⟨flat, whole⟩ => by
      intro run inside
      rcases List.mem_cons.mp inside with rfl | behind
      · exact .of_isFlat flat
      · exact whole.bracesBalanced run behind
  | .block .., balanced => balanced
  | .expression .., flat => by
      intro run inside
      obtain rfl := List.mem_singleton.mp inside
      exact .of_isFlat flat

section Derivations

theorem keptByBrackets_bracesBalanced : KeptByBrackets BracesBalanced where
  nil := .nil
  append := .append
  plain _ notLeft notRight := .plain notLeft notRight .nil
  parens isOpening inside isClosing := .cons_of_eq isOpening (by decide)
    (inside.append (.cons_of_eq isClosing (by decide) .nil))
  braces isOpening inside isClosing := .group isOpening inside isClosing .nil

/-! ## Where a skip ends -/

/-- A flat condition makes a flat heading. -/
theorem IsFlat.heading {condition behind : List Token} {keyword opening : Token} {word : Keyword}
    (flat : IsFlat condition) (isKeyword : keyword.kind = .keyword word)
    (isOpening : opening.kind = .operator .leftParen) (others : IsFlat behind) :
    IsFlat (keyword :: opening :: (condition ++ behind)) :=
  .cons_of_eq isKeyword (by simp) (.cons_of_eq isOpening (by decide) (flat.append others))

/-- A skip goes over a flat heading. -/
theorem IsFlat.skipped_heading {condition behind : List Token} {keyword opening : Token}
    {word : Keyword} (flat : IsFlat condition) (isKeyword : keyword.kind = .keyword word)
    (isOpening : opening.kind = .operator .leftParen) (others : IsFlat behind)
    (body : List Token) :
    skipped 0 (keyword :: opening :: (condition ++ (behind ++ body))) =
      keyword :: opening :: (condition ++ (behind ++ skipped 0 body)) := by
  have heading := IsFlat.heading flat isKeyword isOpening others
  simpa using heading.skipped_append body

/-- A closing parenthesis is flat, and so it is in front of a keyword. -/
theorem isFlat_closing {closing : Token} (isClosing : closing.kind = .operator .rightParen) :
    IsFlat [closing] :=
  .cons_of_eq isClosing (by decide) .nil

theorem isFlat_closing_keyword {closing keyword : Token} {word : Keyword}
    (isClosing : closing.kind = .operator .rightParen) (isKeyword : keyword.kind = .keyword word) :
    IsFlat [closing, keyword] :=
  .cons_of_eq isClosing (by decide) (.cons_of_eq isKeyword (by simp) .nil)

/-- A skip goes over a block whose expressions have balanced braces. -/
theorem DerivesBlock.skipped_append {tree : SyntaxTree} {input rest : List Token}
    (derives : DerivesBlock tree input rest) (whole : tree.SkipsWhole) :
    skipped 0 input ++ rest = input := by
  cases derives with
  | @braces opening closing items body _ isOpening inside isClosing =>
      obtain ⟨run, rfl, balanced⟩ := inside.exists_run_of keptByBrackets_bracesBalanced
        fun run member _ => whole run member
      rw [(balanced.settlesWithin Nat.one_pos).skipped_braces isOpening isClosing]
      simp

/-- **A statement that is skipped as a whole** is skipped up to where it ends. -/
theorem DerivesStatement.skipped_append : ∀ {tree : SyntaxTree} {input rest : List Token},
    DerivesStatement tree input rest → tree.SkipsWhole → skipped 0 input ++ rest = input
  | _, _, _, @DerivesStatement.read keyword opening name closing semicolon rest isKeyword isOpening
      isName isClosing isSemicolon, _ => by
      have flat : IsFlat [keyword, opening, name, closing] :=
        .cons_of_eq isKeyword (by decide) (.cons_of_eq isOpening (by decide)
          (.cons_of_eq isName (by decide) (.cons_of_eq isClosing (by decide) .nil)))
      exact congrArg (· ++ rest) (flat.skipped_semicolon isSemicolon rest)
  | _, _, _, @DerivesStatement.write keyword opening closing semicolon tokens rest isKeyword
      isOpening _ isClosing isSemicolon, flat => by
      have heading := IsFlat.heading flat isKeyword isOpening
        (.cons_of_eq isClosing (by decide) .nil)
      have skips := heading.skipped_semicolon isSemicolon rest
      simp only [List.cons_append, List.append_assoc, List.nil_append] at skips
      rw [skips]
      simp
  | _, _, _, .ifThen isKeyword isOpening _ isClosing isThen consequence _, ⟨flat, whole⟩ => by
      have skips := IsFlat.skipped_heading flat isKeyword isOpening
        (isFlat_closing_keyword isClosing isThen)
      refine (congrArg (· ++ _) (skips _)).trans ?_
      simp [consequence.skipped_append whole]
  | _, _, _, .ifThenElse .., whole => whole.elim
  | _, _, _, .loop isKeyword isOpening _ isClosing inner, ⟨flat, whole⟩ => by
      have skips := IsFlat.skipped_heading flat isKeyword isOpening (isFlat_closing isClosing)
      refine (congrArg (· ++ _) (skips _)).trans ?_
      simp [inner.skipped_append whole]
  | _, _, _, .block inner, whole => inner.skipped_append whole
  | _, _, _, @DerivesStatement.expression semicolon tokens rest _ isSemicolon _, flat => by
      rw [IsFlat.skipped_semicolon flat isSemicolon]
      simp

/-- Where its expressions hold no brace, the braces of a block are balanced. -/
theorem DerivesBlock.skipsWhole {tree : SyntaxTree} {input rest : List Token}
    (derives : DerivesBlock tree input rest) (braceless : ∀ run ∈ tree.expressions, Braceless run) :
    tree.SkipsWhole := by
  cases derives with
  | braces => exact fun run inside => .of_braceless (braceless run inside)

/-- A skip does not get behind a condition that is not flat. -/
theorem Braceless.isFlat_or_length_le {condition : List Token} (braceless : Braceless condition)
    {keyword opening : Token} {word : Keyword} (isKeyword : keyword.kind = .keyword word)
    (isOpening : opening.kind = .operator .leftParen) (behind : List Token) :
    IsFlat condition ∨
      (skipped 0 (keyword :: opening :: (condition ++ behind))).length ≤ condition.length + 2 := by
  rcases braceless.isFlat_or_exists with flat | ⟨front, semicolon, more, rfl, flat, isSemicolon⟩
  · exact .inl flat
  · have heading := IsFlat.heading flat isKeyword isOpening .nil
    have skips := heading.skipped_semicolon isSemicolon (more ++ behind)
    simp only [List.append_nil, List.cons_append] at skips
    rw [List.append_assoc, List.cons_append, skips]
    refine .inr ?_
    simp only [List.length_cons, List.length_append, List.length_nil]
    omega

/-- There are fewer tokens behind a statement than in front of it. -/
theorem DerivesStatement.length_lt {tree : SyntaxTree} {input rest : List Token}
    (derives : DerivesStatement tree input rest) : rest.length < input.length := by
  obtain ⟨run, rfl, nonempty, -⟩ := derives.exists_run
  have positive := List.length_pos_iff.mpr nonempty
  rw [List.length_append]
  omega

/-- **A skip falls short of the end of every other statement** whose expressions hold no brace. -/
theorem DerivesStatement.skipsWhole_or_lt : ∀ {tree : SyntaxTree} {input rest : List Token},
    DerivesStatement tree input rest → (∀ run ∈ tree.expressions, Braceless run) →
    tree.SkipsWhole ∨ (skipped 0 input).length + rest.length < input.length
  | _, _, _, .read .., _ => .inl trivial
  | _, _, _, @DerivesStatement.write keyword opening closing semicolon tokens rest isKeyword
      isOpening _ _ _, braceless => by
      refine ((braceless tokens List.mem_cons_self).isFlat_or_length_le isKeyword isOpening
        (closing :: semicolon :: rest)).imp_right fun bound => ?_
      simp only [List.length_cons, List.length_append]
      omega
  | _, _, _, @DerivesStatement.ifThen keyword opening closing thenToken condition body rest _
      isKeyword isOpening _ isClosing isThen consequence _, braceless => by
      have fewer := consequence.length_lt
      rcases (braceless condition List.mem_cons_self).isFlat_or_length_le isKeyword isOpening
        (closing :: thenToken :: body) with flat | bound
      · refine (consequence.skipsWhole_or_lt fun run inside =>
          braceless run (List.mem_cons_of_mem _ inside)).imp (⟨flat, ·⟩) fun short => ?_
        have skips := congrArg List.length (IsFlat.skipped_heading flat isKeyword isOpening
          (isFlat_closing_keyword isClosing isThen) body)
        simp only [List.length_cons, List.length_append, List.cons_append, List.nil_append]
          at skips ⊢
        omega
      · refine .inr ?_
        simp only [List.length_cons, List.length_append]
        omega
  | _, _, _, @DerivesStatement.ifThenElse keyword opening closing thenToken elseToken condition body
      behind rest _ _ isKeyword isOpening _ isClosing isThen consequence _ alternative,
      braceless => by
      have fewer := consequence.length_lt
      have fewerBehind := alternative.length_lt
      refine .inr ?_
      rcases (braceless condition List.mem_cons_self).isFlat_or_length_le isKeyword isOpening
        (closing :: thenToken :: body) with flat | bound
      · have skips := congrArg List.length (IsFlat.skipped_heading flat isKeyword isOpening
          (isFlat_closing_keyword isClosing isThen) body)
        -- The skip ends in the consequence, or behind it, where the alternative is left.
        have short : (skipped 0 body).length + (elseToken :: behind).length ≤ body.length := by
          rcases consequence.skipsWhole_or_lt fun run inside =>
            braceless run (List.mem_cons_of_mem _ (List.mem_append_left _ inside)) with
            whole | short
          · rw [← List.length_append, consequence.skipped_append whole]
          · exact Nat.le_of_lt short
        simp only [List.length_cons, List.length_append, List.cons_append, List.nil_append]
          at skips short ⊢
        omega
      · simp only [List.length_cons, List.length_append] at fewer ⊢
        omega
  | _, _, _, @DerivesStatement.loop keyword opening closing condition body rest _ isKeyword
      isOpening _ _ inner, braceless => by
      have fewer := (DerivesStatement.block inner).length_lt
      refine ((braceless condition List.mem_cons_self).isFlat_or_length_le isKeyword isOpening
        (closing :: body)).imp (fun flat => ⟨flat, inner.skipsWhole fun run inside =>
          braceless run (List.mem_cons_of_mem _ inside)⟩) fun bound => ?_
      simp only [List.length_cons, List.length_append]
      omega
  | _, _, _, .block inner, braceless => .inl (inner.skipsWhole braceless)
  | _, _, _, @DerivesStatement.expression semicolon tokens rest _ isSemicolon _, braceless => by
      rcases (braceless tokens List.mem_cons_self).isFlat_or_exists with
        flat | ⟨front, first, more, rfl, flat, isFirst⟩
      · exact .inl flat
      · refine .inr ?_
        rw [List.append_assoc, List.cons_append, flat.skipped_semicolon isFirst]
        simp only [List.length_append, List.length_cons, List.length_nil]
        omega

end Derivations

/-! ## Statements that are nested too deep -/

/-- The place to which a skip leads. -/
def TokenStream.behindSkip (stream : TokenStream) : TokenStream :=
  stream.moveOver (skipped 0 stream.rest).length

theorem TokenStream.moves_behindSkip (stream : TokenStream) : stream.Moves stream.behindSkip :=
  .moveOver _ _

/-- A run that is skipped leads to the place behind it. -/
theorem TokenStream.Moves.behindSkip_eq {stream final : TokenStream} (moves : stream.Moves final)
    (skips : skipped 0 stream.rest ++ final.rest = stream.rest) : stream.behindSkip = final := by
  obtain ⟨run, rest, split, rfl⟩ := moves
  obtain rfl : skipped 0 stream.rest = run := List.append_cancel_right (skips.trans split)
  rw [behindSkip, TokenStream.moveOver]
  generalize skipped 0 stream.rest = run at *
  rw [split, List.take_left, List.drop_left]

/-- The rejection of a statement for which no level is left. -/
def tooDeepAt (stream : TokenStream) : Rejection := ⟨.tooDeep maxNesting, stream.peek⟩

/-- Behind a statement that was skipped, parsing goes on where the skip ends. -/
theorem TokenStream.recovered_tooDeep {stream start : TokenStream}
    (moved : start.position < stream.position) (found : Token) :
    stream.recovered start (some ⟨.tooDeep maxNesting, found⟩) = stream := by
  have noSearch : stream.resumedAfter (.tooDeep maxNesting) = stream := rfl
  rw [recovered_some, noSearch]
  exact if_neg (by omega)

/-- The statement from one place to another is discarded whole where no level is left for it. -/
structure DiscardedWhole (stream final : TokenStream) : Prop where
  /-- A skip ends where the statement does. -/
  skip : ∀ nesting findings,
    skipStatement (place stream nesting findings) = .ok () (place final nesting findings)
  /-- As many braces are closed in it as are opened, each behind the one it closes. -/
  balanced : ∃ run, stream.rest = run ++ final.rest ∧ BracesBalanced run
  /-- It is rejected at its end, and nothing is found in it. -/
  rejected : ∀ policy nesting findings, maxNesting ≤ nesting →
    statement policy (place stream nesting findings) =
      .error (.rejected (tooDeepAt stream)) (place final nesting findings)
  /-- As an item of a block it leaves one diagnostic and no record. -/
  item : ∀ policy nesting findings, maxNesting ≤ nesting → stream.atTypeName = false →
    item policy (place stream nesting findings) =
      .ok none (place final nesting (findings.record (tooDeepAt stream).diagnostic))
  /-- An item that it is part of, and that is rejected with it, leaves one diagnostic more and no
  record, and parsing goes on where the statement ends. -/
  enclosing : ∀ policy inner start nesting before after, start.Moves stream →
    start.atTypeName = false →
    inner (place start nesting before) =
      .error (.rejected (tooDeepAt stream)) (place final nesting after) →
    declarationOrStatement policy inner (place start nesting before) =
      .ok none (place final nesting (after.record (tooDeepAt stream).diagnostic))

/-- Where no level is left, a statement is rejected behind the skip. -/
theorem statement_tooDeep (policy : RedeclarationPolicy) {nesting : Nat}
    (full : maxNesting ≤ nesting) (stream : TokenStream) (findings : Findings) :
    statement policy (place stream nesting findings) =
      .error (.rejected (tooDeepAt stream)) (place stream.behindSkip nesting findings) := by
  have none_left : maxNesting - (place stream nesting findings).nesting = 0 :=
    Nat.sub_eq_zero_of_le full
  rw [statement, bind_of_ok (get_apply _), none_left]
  rfl

/-- An item that is rejected because of a statement in it leaves one diagnostic and no record, and
parsing goes on behind the skip. -/
theorem declarationOrStatement_tooDeep (policy : RedeclarationPolicy) {inner : Parse Statement}
    {stream start : TokenStream} {nesting : Nat} {before after : Findings}
    (moved : start.position < stream.behindSkip.position) (notType : start.atTypeName = false)
    (failed : inner (place start nesting before) =
      .error (.rejected (tooDeepAt stream)) (place stream.behindSkip nesting after)) :
    declarationOrStatement policy inner (place start nesting before) =
      .ok none (place stream.behindSkip nesting
        (after.record (tooDeepAt stream).diagnostic)) := by
  have body : declarationOrStatement policy inner (place start nesting before) =
      tryCatch (some <$> if start.atTypeName then variableDeclaration policy else inner)
        (goOn start.position) (place start nesting before) := rfl
  have stays : stream.behindSkip.recovered start (some (tooDeepAt stream)) = stream.behindSkip :=
    TokenStream.recovered_tooDeep moved _
  rw [body, notType, tryCatch_apply, map_apply, if_neg (by simp), failed]
  simp only [goOn]
  rw [bind_of_ok (record_place _), bind_of_ok (recover_place _ _), stays]
  rfl

/-- A statement is discarded whole if a skip leads to where it ends. -/
theorem DiscardedWhole.of_behindSkip {stream final : TokenStream} {run : List Token}
    (skips : stream.behindSkip = final) (split : stream.rest = run ++ final.rest)
    (balanced : BracesBalanced run) (moved : stream.position < final.position) :
    DiscardedWhole stream final := by
  subst skips
  exact {
    skip := fun _ _ => rfl
    balanced := ⟨run, split, balanced⟩
    rejected := fun policy nesting findings full => statement_tooDeep policy full stream findings
    item := fun policy nesting findings full notType =>
      declarationOrStatement_tooDeep policy moved notType
        (statement_tooDeep policy full stream findings)
    enclosing := fun policy _ _ _ _ _ moves notType failed =>
      declarationOrStatement_tooDeep policy (Nat.lt_of_le_of_lt moves.position_le moved) notType
        failed }

/-- A statement that is parsed without a diagnostic about grammar is derived by the tree whose
record it is. -/
theorem exists_derivation_of_statement {policy : RedeclarationPolicy} {levels : Nat}
    {start final : ParseState} {record : Statement}
    (parses : statementWithin policy levels start = .ok record final)
    (clean : final.diagnostics.ofCategory .syntactic =
      start.diagnostics.ofCategory .syntactic) :
    ∃ tree, DerivesStatement tree start.stream.rest final.stream.rest ∧
      tree.outline = record.untyped ∧ start.stream.Moves final.stream := by
  obtain ⟨stream, nesting, table, diagnostics, journal⟩ := start
  change statementWithin policy levels (place stream nesting ⟨table, diagnostics, journal⟩) = _
    at parses
  rcases reads_or_misread levels stream with ⟨reading, last, reads⟩ | ⟨-, aborts⟩
  · rw [reads.run] at parses
    have grown := reading.effect_syntactic policy ⟨table, diagnostics, journal⟩
    have outline := reading.effect_untyped policy ⟨table, diagnostics, journal⟩
    generalize reading.effect policy ⟨table, diagnostics, journal⟩ = outcome at *
    obtain ⟨_ | result, found⟩ := outcome
    · cases parses
    · cases parses
      have silent : reading.recorded = [] :=
        List.map_eq_nil_iff.mp (List.append_right_eq_self.mp (grown.symm.trans clean))
      have complete : reading.rejection? = none := by
        rw [ParseTree.rejection?, ← outline]
        rfl
      obtain ⟨tree, rfl, derives, -⟩ := reads.exists_derivation complete silent
      rw [SyntaxTree.outline_reading] at outline
      exact ⟨tree, derives, (Except.ok.inj outline).symm, reads.moves⟩
  · obtain ⟨failure, last, failed, -⟩ := aborts policy nesting ⟨table, diagnostics, journal⟩
    cases parses.symm.trans failed

/-- **Where a skip and the grammar agree on the end of a statement.** A statement that is parsed
without a diagnostic about grammar, whatever the number of levels, is discarded whole beyond the
limit if it has no alternative and no semicolon in an expression in front of its braces, and the
braces in the expressions inside of them are balanced. If no expression holds a brace at all, it is
for no other statement that a skip ends where parsing does: it ends in front of that place. -/
theorem skip_agrees_iff {policy : RedeclarationPolicy} {levels : Nat} {start final : ParseState}
    {record : Statement} (parses : statementWithin policy levels start = .ok record final)
    (clean : final.diagnostics.ofCategory .syntactic =
      start.diagnostics.ofCategory .syntactic) :
    ∃ tree, DerivesStatement tree start.stream.rest final.stream.rest ∧
      tree.outline = record.untyped ∧
      (tree.SkipsWhole → DiscardedWhole start.stream final.stream) ∧
      ((∀ run ∈ tree.expressions, Braceless run) →
        (start.stream.behindSkip = final.stream ↔ tree.SkipsWhole) ∧
        (¬ tree.SkipsWhole → start.stream.behindSkip.position < final.stream.position)) := by
  obtain ⟨tree, derives, outline, moves⟩ := exists_derivation_of_statement parses clean
  refine ⟨tree, derives, outline, ?_, ?_⟩
  · intro whole
    obtain ⟨run, split, balanced⟩ := derives.exists_run_of keptByBrackets_bracesBalanced
      fun run member _ => whole.bracesBalanced run member
    have fewer := derives.length_lt
    have total := moves.position_eq
    exact .of_behindSkip (moves.behindSkip_eq (derives.skipped_append whole)) split balanced
      (by omega)
  · intro braceless
    have short : ¬ tree.SkipsWhole →
        start.stream.behindSkip.position < final.stream.position := by
      intro notWhole
      have lengths := (derives.skipsWhole_or_lt braceless).resolve_left notWhole
      have total := moves.position_eq
      have skipTotal := start.stream.moves_behindSkip.position_eq
      simp only [TokenStream.behindSkip, TokenStream.moveOver, List.length_drop] at skipTotal ⊢
      omega
    refine ⟨⟨fun same => ?_, fun whole => ?_⟩, short⟩
    · by_contra notWhole
      exact absurd (congrArg TokenStream.position same) (Nat.ne_of_lt (short notWhole))
    · exact moves.behindSkip_eq (derives.skipped_append whole)

/-- The tokens of a conditional with braces and a semicolon in an expression of its block. -/
def bracesInExpressionTokens : List Token :=
  [⟨.keyword .ifWord, "if", none, ⟨"<string>", 1, 1, 0⟩⟩,
    ⟨.operator .leftParen, "(", none, ⟨"<string>", 1, 4, 3⟩⟩,
    ⟨.identifier, "a", some (.text "a"), ⟨"<string>", 1, 5, 4⟩⟩,
    ⟨.operator .rightParen, ")", none, ⟨"<string>", 1, 6, 5⟩⟩,
    ⟨.keyword .thenWord, "then", none, ⟨"<string>", 1, 8, 7⟩⟩,
    ⟨.operator .leftBrace, "\x7b", none, ⟨"<string>", 1, 13, 12⟩⟩,
    ⟨.keyword .writeWord, "write", none, ⟨"<string>", 1, 15, 14⟩⟩,
    ⟨.operator .leftParen, "(", none, ⟨"<string>", 1, 20, 19⟩⟩,
    ⟨.operator .leftParen, "(", none, ⟨"<string>", 1, 21, 20⟩⟩,
    ⟨.operator .leftBrace, "\x7b", none, ⟨"<string>", 1, 22, 21⟩⟩,
    ⟨.operator .semicolon, ";", none, ⟨"<string>", 1, 23, 22⟩⟩,
    ⟨.operator .rightBrace, "\x7d", none, ⟨"<string>", 1, 24, 23⟩⟩,
    ⟨.operator .rightParen, ")", none, ⟨"<string>", 1, 25, 24⟩⟩,
    ⟨.operator .rightParen, ")", none, ⟨"<string>", 1, 26, 25⟩⟩,
    ⟨.operator .semicolon, ";", none, ⟨"<string>", 1, 27, 26⟩⟩,
    ⟨.operator .rightBrace, "\x7d", none, ⟨"<string>", 1, 29, 28⟩⟩]

/-- The conditional `if (a) then` with the statement `write(({;}));` in its block. -/
theorem skip_agrees_iff_bracesInExpression :
    ∃ record final, statementWithin {} 3 (.ofTokens bracesInExpressionTokens) = .ok record final ∧
      final.diagnostics.ofCategory .syntactic = [] ∧
      ∃ tree, DerivesStatement tree bracesInExpressionTokens final.stream.rest ∧
        tree.outline = record.untyped ∧
        (tree.SkipsWhole → DiscardedWhole (.ofTokens bracesInExpressionTokens) final.stream) ∧
        ((∀ run ∈ tree.expressions, Braceless run) →
          ((TokenStream.ofTokens bracesInExpressionTokens).behindSkip = final.stream ↔
            tree.SkipsWhole) ∧
          (¬ tree.SkipsWhole →
            (TokenStream.ofTokens bracesInExpressionTokens).behindSkip.position <
              final.stream.position)) := by
  obtain ⟨record, final, parses, clean⟩ : ∃ record final,
      statementWithin {} 3 (.ofTokens bracesInExpressionTokens) = .ok record final ∧
        final.diagnostics.ofCategory .syntactic = [] := ⟨_, _, rfl, rfl⟩
  exact ⟨record, final, parses, clean, skip_agrees_iff parses clean⟩

/-- The tokens of `if (a) then x; else y;`. -/
def alternativeTokens : List Token :=
  [⟨.keyword .ifWord, "if", none, ⟨"<string>", 1, 1, 0⟩⟩,
    ⟨.operator .leftParen, "(", none, ⟨"<string>", 1, 4, 3⟩⟩,
    ⟨.identifier, "a", some (.text "a"), ⟨"<string>", 1, 5, 4⟩⟩,
    ⟨.operator .rightParen, ")", none, ⟨"<string>", 1, 6, 5⟩⟩,
    ⟨.keyword .thenWord, "then", none, ⟨"<string>", 1, 8, 7⟩⟩,
    ⟨.identifier, "x", some (.text "x"), ⟨"<string>", 1, 13, 12⟩⟩,
    ⟨.operator .semicolon, ";", none, ⟨"<string>", 1, 14, 13⟩⟩,
    ⟨.keyword .elseWord, "else", none, ⟨"<string>", 1, 16, 15⟩⟩,
    ⟨.identifier, "y", some (.text "y"), ⟨"<string>", 1, 21, 20⟩⟩,
    ⟨.operator .semicolon, ";", none, ⟨"<string>", 1, 22, 21⟩⟩]

/-- The tokens of `if (a) then` as many times as statements may be open, and one conditional with an
alternative more. -/
def deepAlternativeTokens : List Token :=
  (List.replicate maxNesting (alternativeTokens.take 5)).flatten ++ alternativeTokens

/-- With levels to spare, all tokens of `if (a) then x; else y;` are one statement and nothing is
reported. A skip ends in front of `else`. Beyond the limit, one rejection is recorded, and the
alternative is left: it is recorded as a statement of its own. -/
theorem skip_leaves_alternative :
    (∃ record final, statementWithin {} 2 (.ofTokens alternativeTokens) = .ok record final ∧
      final.stream.rest = [] ∧ final.stream.position = 10 ∧ final.diagnostics = []) ∧
    (TokenStream.ofTokens alternativeTokens).behindSkip.position = 7 ∧
    ∃ record final, program {} (.ofTokens deepAlternativeTokens) = .ok [record] final ∧
      final.diagnostics = [(tooDeepAt (.ofTokens alternativeTokens)).diagnostic] ∧
      record.kind = .expression ∧ record.content = "else y" := by
  refine ⟨⟨_, _, rfl, rfl, rfl, rfl⟩, rfl, ?_⟩
  have records : ((program {}).run' (.ofTokens deepAlternativeTokens)).map
      (List.map fun record => (record.kind, record.content)) =
        some [(.expression, "else y")] := by decide +kernel
  have found : (stateBehind (program {}) (.ofTokens deepAlternativeTokens)).diagnostics =
      [(tooDeepAt (.ofTokens alternativeTokens)).diagnostic] := by decide +kernel
  obtain ⟨statements, results, only⟩ := Option.map_eq_some_iff.mp records
  obtain ⟨record, rfl, same⟩ := List.map_eq_singleton_iff.mp only
  exact ⟨record, _, ok_of_run' results, found, congrArg Prod.fst same, congrArg Prod.snd same⟩

end NumericLanguage
