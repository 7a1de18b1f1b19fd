import NumericLanguage.Proofs.Parsing.Bounds
import NumericLanguage.Proofs.Recovery.TooDeep

/-!
# Nested blocks

Blocks around one declaration show where the limit on open statements is. With no more blocks than
the limit allows nothing is reported. With more of them, the first block beyond the limit is
rejected at its opening brace and skipped. The skip counts all braces on its way, also those between
the parentheses of an initial value, where they need not be balanced. If they settle within the
blocks beyond the limit, the skip ends where the rejected block does: the rejection is the only
diagnostic, the blocks around are closed by the braces that are left, and the outermost one is
recorded. If they do not settle, more is reported (`skip_takes_outer_brace`).

Where nothing is left over, the program is one reading (`ReadsWhole.inBlocks`), of blocks around an
item that is read or skipped as a whole, and has one effect (`ParseTree.diagnostics_inBlocks`).
Together with the bounds on a run these say what the limit guarantees (`nesting_bounds`).
-/

set_option autoImplicit false

namespace NumericLanguage

open Parse ParseState

/-! ## Tokens between braces -/

/-- The tokens between pairs of braces, the outermost pair first. -/
def inBraces : List (Token × Token) → List Token → List Token
  | [], inside => inside
  | (opening, closing) :: pairs, inside => opening :: (inBraces pairs inside ++ [closing])

/-- Pairs of an opening brace and a closing one. -/
def AreBraces (pairs : List (Token × Token)) : Prop :=
  ∀ pair ∈ pairs, pair.1.kind = .operator .leftBrace ∧ pair.2.kind = .operator .rightBrace

theorem inBraces_append (pairs others : List (Token × Token)) (inside : List Token) :
    inBraces (pairs ++ others) inside = inBraces pairs (inBraces others inside) := by
  induction pairs with
  | nil => rfl
  | cons pair pairs ih => rw [List.cons_append, inBraces, inBraces, ih]

/-- The opening braces come first, and the closing ones last, in the opposite order. -/
theorem inBraces_eq (pairs : List (Token × Token)) (inside : List Token) :
    inBraces pairs inside = pairs.map Prod.fst ++ inside ++ (pairs.map Prod.snd).reverse := by
  induction pairs with
  | nil => simp [inBraces]
  | cons pair pairs ih => simp [inBraces, ih]

namespace AreBraces

variable {pairs : List (Token × Token)}

theorem openings (braces : AreBraces pairs) :
    ∀ token ∈ pairs.map Prod.fst, token.kind = .operator .leftBrace := by
  intro token inside
  obtain ⟨pair, member, rfl⟩ := List.mem_map.mp inside
  exact (braces pair member).1

theorem closings (braces : AreBraces pairs) :
    ∀ token ∈ (pairs.map Prod.snd).reverse, token.kind = .operator .rightBrace := by
  intro token inside
  obtain ⟨pair, member, rfl⟩ := List.mem_map.mp (List.mem_reverse.mp inside)
  exact (braces pair member).2

/-- A run that settles within some braces and those around it settles within the former, together
with the latter. -/
theorem settlesWithin (braces : AreBraces pairs) {depth : Nat} {inside : List Token}
    (settles : SettlesWithin (depth + pairs.length) inside) (positive : 0 < depth) :
    SettlesWithin depth (inBraces pairs inside) := by
  induction pairs generalizing depth with
  | nil => exact settles
  | cons pair pairs ih =>
      obtain ⟨isOpening, isClosing⟩ := braces pair List.mem_cons_self
      rw [List.length_cons, Nat.add_comm pairs.length, ← Nat.add_assoc] at settles
      exact (ih (fun other behind => braces other (List.mem_cons_of_mem _ behind)) settles
        (Nat.succ_pos depth)).braces positive isOpening isClosing

end AreBraces

/-! ## Blocks around an item -/

/-- The reading of blocks between pairs of braces, the outermost pair first, around one item. -/
def ParseTree.inBlocks : List (Token × Token) → ParseTree → ParseTree
  | [], item => item
  | (opening, _) :: pairs, item => .block opening [inBlocks pairs item] none

/-- A run of tokens is read as one item, wherever it stands, and parsing goes on behind it. -/
structure ReadsWhole (levels : Nat) (tokens : List Token) (item : ParseTree) : Prop where
  begins : ∃ first behind, tokens = first :: behind ∧ first.kind ≠ .operator .rightBrace
  reads : ∀ front behind stop, ∃ front',
    ReadsItem levels ⟨front, tokens ++ behind, stop⟩ item ⟨front', behind, stop⟩ ∧
      TokenStream.recovered ⟨front', behind, stop⟩ ⟨front, tokens ++ behind, stop⟩
        item.rejection? = ⟨front', behind, stop⟩

namespace ReadsWhole

variable {levels : Nat} {tokens : List Token} {item : ParseTree}

/-- A block around an item. -/
theorem block (whole : ReadsWhole levels tokens item) {opening closing : Token}
    (isOpening : opening.kind = .operator .leftBrace)
    (isClosing : closing.kind = .operator .rightBrace) :
    ReadsWhole (levels + 1) (opening :: (tokens ++ [closing])) (.block opening [item] none) where
  begins := ⟨opening, _, rfl, by simp [isOpening]⟩
  reads := by
    intro front behind stop
    obtain ⟨first, others, split, notBrace⟩ := whole.begins
    obtain ⟨front', reads, goesOn⟩ := whole.reads (opening :: front) (closing :: behind) stop
    have stops : blockStops ⟨front', closing :: behind, stop⟩ = true := by
      simp [blockStops, TokenStream.startsWith, isClosing]
    have inside : ReadsItems blockStops levels
        ⟨opening :: front, tokens ++ closing :: behind, stop⟩ [item]
        ⟨front', closing :: behind, stop⟩ := by
      refine .next ?_ reads ?_
      · refine goesOn_blockStops _ first (others ++ closing :: behind) ?_ notBrace
        rw [split, List.cons_append]
      · rw [goesOn]
        exact .done stops
    refine ⟨closing :: front', ?_, rfl⟩
    rw [List.cons_append, List.append_assoc]
    refine .statement ?_ (.block (.closed isOpening inside isClosing))
    simp [isOpening, TokenKind.isTypeName]

/-- **Blocks around an item** are read as a whole, with a level for each of them. -/
theorem inBlocks (whole : ReadsWhole levels tokens item) {pairs : List (Token × Token)}
    (braces : AreBraces pairs) :
    ReadsWhole (levels + pairs.length) (inBraces pairs tokens) (.inBlocks pairs item) := by
  induction pairs with
  | nil => exact whole
  | cons pair pairs ih =>
      obtain ⟨isOpening, isClosing⟩ := braces pair List.mem_cons_self
      exact (ih fun other behind => braces other (List.mem_cons_of_mem _ behind)).block isOpening
        isClosing

/-- Braces around a run that settles within them are skipped as a whole where no level is left. -/
theorem tooDeep {opening closing : Token} (isOpening : opening.kind = .operator .leftBrace)
    (isClosing : closing.kind = .operator .rightBrace) (settles : SettlesWithin 1 tokens) :
    ReadsWhole 0 (opening :: (tokens ++ [closing]))
      (.rejected ⟨.tooDeep maxNesting, opening⟩) where
  begins := ⟨opening, _, rfl, by simp [isOpening]⟩
  reads := by
    intro front behind stop
    let run := opening :: (tokens ++ [closing])
    let start : TokenStream := ⟨front, run ++ behind, stop⟩
    let final : TokenStream := ⟨run.reverse ++ front, behind, stop⟩
    have moves : start.Moves final := ⟨run, behind, rfl, rfl⟩
    have skips : skipped 0 start.rest = run := by
      simp only [start, run, List.cons_append, List.append_assoc, List.nil_append]
      exact settles.skipped_braces isOpening isClosing behind
    have reads : Reads 0 start (.rejected ⟨.tooDeep maxNesting, opening⟩) start.behindSkip :=
      .tooDeep
    rw [moves.behindSkip_eq (congrArg (· ++ behind) skips)] at reads
    refine ⟨_, .statement ?_ reads, TokenStream.recovered_tooDeep ?_ opening⟩
    · simp [isOpening, TokenKind.isTypeName]
    · simp only [TokenStream.position, List.length_append, List.length_reverse]
      exact Nat.lt_add_of_pos_left (Nat.succ_pos _)

/-- A declaration is read as a whole. -/
theorem declaration {typeToken name : Token} {type : ValueType} {initial : Option (List Token)}
    (derives : DerivesItem (.declaration typeToken name type initial) tokens []) :
    ReadsWhole levels tokens (.declaration typeToken name type initial none) where
  begins := derives.exists_head
  reads := by
    intro front behind stop
    cases derives with
    | declaration isType names isName isSemicolon =>
        exact ⟨_, .declaration isType names isName isSemicolon, rfl⟩
    | @initialized _ _ sign semicolon _ initial _ isType names isName isSign isExpression
        isSemicolon =>
        have split : typeToken :: name :: sign :: (initial ++ [semicolon]) ++ behind =
            typeToken :: name :: sign :: (initial ++ semicolon :: behind) := by simp
        rw [split]
        exact ⟨_, .initialized isType names isName isSign isExpression isSemicolon, rfl⟩
    | statement _ statement =>
        cases statement with
        | block block => cases block

end ReadsWhole

/-! ## What blocks around an item find -/

namespace ParseTree

variable (policy : RedeclarationPolicy) {item : ParseTree} {added : List Diagnostic}

/-- Where nothing is declared, a declaration is not reported. -/
theorem diagnostics_declaration (typeToken name : Token) (type : ValueType)
    (initial : Option (List Token)) {findings : Findings}
    (fresh : findings.table.current.declarations = []) :
    (settle ((declaration typeToken name type initial none).effect policy findings)).diagnostics =
      findings.diagnostics := by
  have free : findings.table.current.find? name.lexeme = none := by
    rw [Scope.find?, fresh, List.find?_nil]
  have isNew : (findings.declare policy type typeToken.location.line name).1 = true := by
    rw [Findings.declare, ScopeTable.declare, free]
  have silent : (findings.declare policy type typeToken.location.line name).2.diagnostics =
      findings.diagnostics := by
    rw [Findings.declare, ScopeTable.declare, free]
    rfl
  simp only [effect, declarationEffect, settle, isNew, if_true]
  rw [Findings.diagnostics_storeInitialValue, silent]

/-- **Blocks around an item** report what the item does, if it does so wherever nothing is declared
in the innermost scope. -/
theorem diagnostics_inBlocks (pairs : List (Token × Token))
    (reports : ∀ findings : Findings, findings.table.current.declarations = [] →
      (settle (item.effect policy findings)).diagnostics = findings.diagnostics ++ added)
    {findings : Findings} (fresh : findings.table.current.declarations = []) :
    (settle ((inBlocks pairs item).effect policy findings)).diagnostics =
      findings.diagnostics ++ added := by
  induction pairs generalizing findings with
  | nil => exact reports findings fresh
  | cons pair pairs ih =>
      have inner : (settle ((inBlocks pairs item).effect policy findings.enter)).diagnostics =
          findings.diagnostics ++ added := ih rfl
      exact (Findings.diagnostics_leave _).trans inner

/-- Blocks around an item are recorded as one block. -/
theorem exists_block_inBlocks {pairs : List (Token × Token)} (nonempty : pairs ≠ [])
    (findings : Findings) :
    ∃ block, ((inBlocks pairs item).effect policy findings).1 = .ok block ∧
      block.kind = .block := by
  cases pairs with
  | nil => exact absurd rfl nonempty
  | cons pair pairs => exact ⟨_, rfl, rfl⟩

end ParseTree

/-! ## Programs of nested blocks -/

section Programs

variable {tokens inside : List Token} {pairs : List (Token × Token)}

/-- A program that is read as one item has its effect. -/
theorem ReadsWhole.run {item : ParseTree}
    (whole : ReadsWhole maxNesting (programTokens tokens) item) (policy : RedeclarationPolicy) :
    ∃ final, program policy (.ofTokens tokens) =
        .ok (item.effect policy .nothing).1.toOption.toList final ∧
      final.diagnostics = (ParseTree.settle (item.effect policy .nothing)).diagnostics := by
  let stop := (TokenStream.ofTokens tokens).stop
  obtain ⟨first, behind, split, notBrace⟩ := whole.begins
  obtain ⟨front', readsItem, goesOn⟩ := whole.reads [] [] stop
  rw [List.append_nil] at readsItem goesOn
  have reads : ReadsProgram (.ofTokens tokens) [item] ⟨front', [], stop⟩ :=
    .next (goesOn_atEnd _ first behind split notBrace) readsItem (goesOn.symm ▸ .done rfl)
  have run := program_of_reads reads policy 0 .nothing
  have records : (ParseTree.effectAll policy [item] .nothing).1 =
      (item.effect policy .nothing).1.toOption.toList := List.append_nil _
  rw [← ofTokens_eq_place, records] at run
  exact ⟨_, run, rfl⟩

/-- With no more blocks than the limit allows, nothing is reported. -/
theorem exists_run_of_blocks (policy : RedeclarationPolicy) {typeToken name : Token}
    {type : ValueType} {initial : Option (List Token)} (braces : AreBraces pairs)
    (derives : DerivesItem (.declaration typeToken name type initial) inside [])
    (same : programTokens tokens = inBraces pairs inside) (fits : pairs.length ≤ maxNesting) :
    ∃ statements final, program policy (.ofTokens tokens) = .ok statements final ∧
      final.diagnostics = [] := by
  have innermost : ReadsWhole (maxNesting - pairs.length) inside
      (.declaration typeToken name type initial none) := .declaration derives
  have whole := innermost.inBlocks braces
  rw [Nat.sub_add_cancel fits, ← same] at whole
  obtain ⟨final, run, found⟩ := whole.run policy
  refine ⟨_, final, run, found.trans ?_⟩
  refine ParseTree.diagnostics_inBlocks policy pairs (fun findings fresh => ?_) rfl
  rw [ParseTree.diagnostics_declaration policy typeToken name type initial fresh, List.append_nil]

/-- With more blocks, around a run that settles within those beyond the limit, one rejection is
recorded, at the first opening brace beyond it, and one block. -/
theorem exists_run_of_deep_blocks (policy : RedeclarationPolicy) (braces : AreBraces pairs)
    (same : programTokens tokens = inBraces pairs inside) (beyond : maxNesting < pairs.length)
    (settles : SettlesWithin (pairs.length - maxNesting) inside) :
    ∃ block final, program policy (.ofTokens tokens) = .ok [block] final ∧ block.kind = .block ∧
      final.diagnostics = [Rejection.diagnostic ⟨.tooDeep maxNesting, pairs[maxNesting].1⟩] := by
  let outer := pairs.take maxNesting
  let inner := pairs.drop (maxNesting + 1)
  have enough : outer.length = maxNesting := List.length_take_of_le (Nat.le_of_lt beyond)
  -- The outer blocks use up all levels, and what they enclose is skipped.
  have split : outer ++ pairs[maxNesting] :: inner = pairs := by
    rw [← List.drop_eq_getElem_cons beyond, List.take_append_drop]
  have skipped : ReadsWhole 0 (inBraces (pairs[maxNesting] :: inner) inside)
      (.rejected ⟨.tooDeep maxNesting, pairs[maxNesting].1⟩) := by
    obtain ⟨isOpening, isClosing⟩ := braces pairs[maxNesting] (List.getElem_mem beyond)
    have innerBraces : AreBraces inner := fun pair member =>
      braces pair (List.mem_of_mem_drop member)
    have depth : pairs.length - maxNesting = 1 + inner.length := by
      rw [List.length_drop]
      omega
    exact .tooDeep isOpening isClosing (innerBraces.settlesWithin (depth ▸ settles) Nat.one_pos)
  have whole := skipped.inBlocks fun pair (member : pair ∈ outer) =>
    braces pair (List.mem_of_mem_take member)
  rw [Nat.zero_add, enough, ← inBraces_append, split, ← same] at whole
  obtain ⟨final, run, found⟩ := whole.run policy
  obtain ⟨block, recorded, isBlock⟩ : ∃ block, (ParseTree.effect policy (.inBlocks outer
      (.rejected ⟨.tooDeep maxNesting, pairs[maxNesting].1⟩)) .nothing).1 = .ok block ∧
      block.kind = .block := by
    refine ParseTree.exists_block_inBlocks policy (fun empty => ?_) .nothing
    rw [empty] at enough
    cases enough
  rw [recorded] at run
  refine ⟨block, final, run, isBlock, found.trans ?_⟩
  exact ParseTree.diagnostics_inBlocks policy outer (fun _ _ => rfl) rfl

/-- With more blocks around a declaration, the rejection is recorded first. It is the only
diagnostic only if the declaration settles within the blocks beyond the limit. -/
theorem exists_others_of_deep_blocks {policy : RedeclarationPolicy} {typeToken name : Token}
    {type : ValueType} {initial : Option (List Token)} {statements : List Statement}
    {final : ParseState} (braces : AreBraces pairs)
    (derives : DerivesItem (.declaration typeToken name type initial) inside [])
    (same : programTokens tokens = inBraces pairs inside) (beyond : maxNesting < pairs.length)
    (run : program policy (.ofTokens tokens) = .ok statements final) :
    ∃ others, final.diagnostics =
        Rejection.diagnostic ⟨.tooDeep maxNesting, pairs[maxNesting].1⟩ :: others ∧
      (others = [] → SettlesWithin (pairs.length - maxNesting) inside) := by
  obtain ⟨expression, semicolon, rfl, isExpression, isSemicolon⟩ := derives.exists_expression
  have count : (pairs.map Prod.fst).length = pairs.length := List.length_map _
  have split : programTokens tokens = pairs.map Prod.fst ++
      (expression ++ semicolon :: (pairs.map Prod.snd).reverse) := by
    rw [same, inBraces_eq]
    simp
  obtain ⟨others, found, closes⟩ :=
    exists_others_of_openings braces.openings (count.symm ▸ beyond) split run
  rw [List.getElem_map] at found
  rw [count] at closes
  refine ⟨others, found, fun only => ?_⟩
  have total : (pairs.map Prod.snd).reverse.length = maxNesting + (pairs.length - maxNesting) := by
    rw [List.length_reverse, List.length_map, Nat.add_sub_of_le (Nat.le_of_lt beyond)]
  have deep : 0 < pairs.length - maxNesting := Nat.sub_pos_of_lt beyond
  have settles := (closes only).settlesWithin (Nat.succ_pos _) deep isExpression isSemicolon
    braces.closings total
  have ended : SettlesWithin (pairs.length - maxNesting) [semicolon] :=
    .plain (by simp [isSemicolon]) (by simp [isSemicolon]) (.nil deep)
  exact settles.append ended

/-- In a program of blocks around a run all tokens spell the types they stand for if those of the
run do. -/
theorem AreBraces.namesType (braces : AreBraces pairs)
    (same : programTokens tokens = inBraces pairs inside)
    (spelled : ∀ token ∈ inside, token.NamesType) :
    ∀ token ∈ programTokens tokens, token.NamesType := by
  intro token member isType
  rw [same, inBraces_eq, List.mem_append, List.mem_append] at member
  rcases member with (isOpening | within) | isClosing
  · exact absurd (braces.openings token isOpening) (TokenKind.ne_operator_of_isTypeName isType _)
  · exact spelled token within isType
  · exact absurd (braces.closings token isClosing) (TokenKind.ne_operator_of_isTypeName isType _)

/-- **What the limit on nesting guarantees.** During a run over any tokens no more than `maxNesting`
statements are open, and no more than as many scopes above those from before; inside a statement the
count is never lower than in front of it. In the end, also after a failure, none of them is open. No
record is higher than twice the limit and one.

Nested blocks around a declaration are parsed without a diagnostic if and only if they are no more
than the limit. Otherwise the first diagnostic is at the first opening brace beyond it. It is the
only one, and the outermost block is all that is recorded, if the braces in the initial value settle
within the blocks beyond the limit, as they do if there are none. If they do not settle, the skip
does not end with the brace that closes the first block beyond the limit, and more is reported in
every program whose tokens spell the types they stand for. -/
theorem nesting_bounds (policy : RedeclarationPolicy) :
    (∀ state, ∀ moment ∈ (Course.statement policy).moments state,
      state.nesting ≤ moment.nesting ∧ moment.nesting ≤ max state.nesting maxNesting) ∧
    (∀ stream findings,
      (∀ moment ∈ (Course.program policy).moments (place stream 0 findings),
        moment.nesting ≤ maxNesting ∧ findings.table.depth ≤ moment.table.depth ∧
          moment.table.depth ≤ findings.table.depth + maxNesting) ∧
      (stateBehind (program policy) (place stream 0 findings)).nesting = 0 ∧
      (stateBehind (program policy) (place stream 0 findings)).table.depth =
        findings.table.depth ∧
      ∀ statements final, program policy (place stream 0 findings) = .ok statements final →
        ∀ statement ∈ statements, statement.height ≤ 2 * maxNesting + 1) ∧
    ∀ tokens pairs inside typeToken name type initial, AreBraces pairs →
      DerivesItem (.declaration typeToken name type initial) inside [] →
      programTokens tokens = inBraces pairs inside →
      ((∃ statements final, program policy (.ofTokens tokens) = .ok statements final ∧
        final.diagnostics = []) ↔ pairs.length ≤ maxNesting) ∧
      ∀ beyond : maxNesting < pairs.length,
        (SettlesWithin (pairs.length - maxNesting) inside →
          ∃ block final, program policy (.ofTokens tokens) = .ok [block] final ∧
            block.kind = .block ∧ final.diagnostics =
              [Rejection.diagnostic ⟨.tooDeep maxNesting, pairs[maxNesting].1⟩]) ∧
        (¬ SettlesWithin (pairs.length - maxNesting) inside →
          (∀ token ∈ inside, token.NamesType) →
          ∃ statements final others, program policy (.ofTokens tokens) = .ok statements final ∧
            final.diagnostics =
              Rejection.diagnostic ⟨.tooDeep maxNesting, pairs[maxNesting].1⟩ :: others ∧
            others ≠ []) := by
  refine ⟨fun state moment inside => ?_, fun stream findings => ?_, ?_⟩
  · obtain ⟨lower, upper, -, -⟩ := (Stays.statement policy state rfl).1 moment inside
    exact ⟨lower, by omega⟩
  · obtain ⟨within, ends⟩ := Stays.program policy (place stream 0 findings) rfl
    refine ⟨fun moment inside => ?_, ends.nesting_eq, ends.depth_eq, ?_⟩
    · obtain ⟨-, upper, deeper, notDeeper⟩ := within moment inside
      exact ⟨upper.trans_eq (Nat.zero_add _), deeper, notDeeper⟩
    · exact fun statements final run statement inside => height_le_of_program run inside
  · intro tokens pairs inside typeToken name type initial braces derives same
    refine ⟨⟨fun ⟨statements, final, run, clean⟩ => ?_, exists_run_of_blocks policy braces derives
      same⟩, fun beyond => ⟨exists_run_of_deep_blocks policy braces same beyond,
        fun unsettled spelled => ?_⟩⟩
    · refine Nat.le_of_not_lt fun beyond => ?_
      obtain ⟨others, found, -⟩ := exists_others_of_deep_blocks braces derives same beyond run
      cases clean.symm.trans found
    · obtain ⟨readings, last, reads⟩ := exists_reads_of_namesType (.ofTokens tokens)
        (braces.namesType same spelled)
      have run := program_of_reads reads policy 0 .nothing
      obtain ⟨others, found, settles⟩ := exists_others_of_deep_blocks braces derives same beyond run
      exact ⟨_, _, others, run, found, fun only => unsettled (settles only)⟩

/-- Some pairs of braces. -/
def nestedBraces (count : Nat) : List (Token × Token) :=
  List.replicate count
    (⟨.operator .leftBrace, "\x7b", none, ⟨"<string>", 1, 1, 0⟩⟩,
      ⟨.operator .rightBrace, "\x7d", none, ⟨"<string>", 1, 2, 1⟩⟩)

theorem areBraces_nestedBraces (count : Nat) : AreBraces (nestedBraces count) := by
  intro pair inside
  rw [List.eq_of_mem_replicate inside]
  exact ⟨rfl, rfl⟩

/-- The tokens of `long x = (}{);`. -/
def settledTokens : List Token :=
  [⟨.keyword .longType, "long", none, ⟨"<string>", 1, 1, 0⟩⟩,
    ⟨.identifier, "x", some (.text "x"), ⟨"<string>", 1, 6, 5⟩⟩,
    ⟨.operator .assign, "=", none, ⟨"<string>", 1, 8, 7⟩⟩,
    ⟨.operator .leftParen, "(", none, ⟨"<string>", 1, 10, 9⟩⟩,
    ⟨.operator .rightBrace, "\x7d", none, ⟨"<string>", 1, 11, 10⟩⟩,
    ⟨.operator .leftBrace, "\x7b", none, ⟨"<string>", 1, 12, 11⟩⟩,
    ⟨.operator .rightParen, ")", none, ⟨"<string>", 1, 13, 12⟩⟩,
    ⟨.operator .semicolon, ";", none, ⟨"<string>", 1, 14, 13⟩⟩]

theorem derives_settledTokens :
    DerivesItem (.declaration settledTokens[0] settledTokens[1] .long
      (some ((settledTokens.drop 3).take 4))) settledTokens [] :=
  .initialized rfl rfl rfl rfl (@isExpression_of_captured _ [] settledTokens[7] rfl) rfl

/-- The tokens of `long x = ({);`. -/
def unsettledTokens : List Token :=
  [⟨.keyword .longType, "long", none, ⟨"<string>", 1, 1, 0⟩⟩,
    ⟨.identifier, "x", some (.text "x"), ⟨"<string>", 1, 6, 5⟩⟩,
    ⟨.operator .assign, "=", none, ⟨"<string>", 1, 8, 7⟩⟩,
    ⟨.operator .leftParen, "(", none, ⟨"<string>", 1, 10, 9⟩⟩,
    ⟨.operator .leftBrace, "\x7b", none, ⟨"<string>", 1, 11, 10⟩⟩,
    ⟨.operator .rightParen, ")", none, ⟨"<string>", 1, 12, 11⟩⟩,
    ⟨.operator .semicolon, ";", none, ⟨"<string>", 1, 13, 12⟩⟩]

theorem derives_unsettledTokens :
    DerivesItem (.declaration unsettledTokens[0] unsettledTokens[1] .long
      (some ((unsettledTokens.drop 3).take 3))) unsettledTokens [] :=
  .initialized rfl rfl rfl rfl (@isExpression_of_captured _ [] unsettledTokens[6] rfl) rfl

/-- Two blocks beyond the limit are enough for `long x = (}{);`, in which the innermost of them
seems to end and to begin again. One is not enough for `long x = ({);`. -/
theorem nesting_bounds_nestedBraces :
    (∃ block final,
      program {} (.ofTokens (inBraces (nestedBraces (maxNesting + 2)) settledTokens)) =
        .ok [block] final ∧
      block.kind = .block ∧ block.height ≤ 2 * maxNesting + 1 ∧ final.diagnostics.length = 1) ∧
    ∃ statements final,
      program {} (.ofTokens (inBraces (nestedBraces (maxNesting + 1)) unsettledTokens)) =
        .ok statements final ∧ 1 < final.diagnostics.length := by
  obtain ⟨-, bounds, blocks⟩ := nesting_bounds {}
  have beyond (more : Nat) : maxNesting < (nestedBraces (maxNesting + (more + 1))).length := by
    rw [nestedBraces, List.length_replicate]
    exact Nat.lt_add_of_pos_right (Nat.succ_pos more)
  constructor
  · have same : programTokens (inBraces (nestedBraces (maxNesting + 2)) settledTokens) =
        inBraces (nestedBraces (maxNesting + 2)) settledTokens := by decide +kernel
    obtain ⟨-, deep⟩ := blocks _ _ _ _ _ _ _ (areBraces_nestedBraces _) derives_settledTokens same
    obtain ⟨settles, -⟩ := deep (beyond 1)
    obtain ⟨block, final, run, isBlock, found⟩ := settles (by decide +kernel)
    refine ⟨block, final, run, isBlock, ?_, congrArg List.length found⟩
    exact (bounds (.ofTokens _) .nothing).2.2.2 _ final run block List.mem_cons_self
  · have same : programTokens (inBraces (nestedBraces (maxNesting + 1)) unsettledTokens) =
        inBraces (nestedBraces (maxNesting + 1)) unsettledTokens := by decide +kernel
    obtain ⟨-, deep⟩ := blocks _ _ _ _ _ _ _ (areBraces_nestedBraces _) derives_unsettledTokens same
    obtain ⟨-, unsettled⟩ := deep (beyond 0)
    obtain ⟨statements, final, others, run, found, some_more⟩ :=
      unsettled (by decide +kernel) (by decide)
    refine ⟨statements, final, run, ?_⟩
    rw [found, List.length_cons]
    exact Nat.succ_lt_succ (List.length_pos_iff.mpr some_more)

/-- One block more than the limit allows, around `long x = ({);`, which is a declaration. The skip
counts the brace between the parentheses and takes the closing brace of a block around it as well.
Behind the rejection an unclosed block is reported, although every block has a closing brace. -/
theorem skip_takes_outer_brace :
    (∃ initial, DerivesItem (.declaration unsettledTokens[0] unsettledTokens[1] .long initial)
      unsettledTokens []) ∧
    (∃ statements final,
      program {} (.ofTokens (inBraces (nestedBraces maxNesting) unsettledTokens)) =
        .ok statements final ∧ final.diagnostics = []) ∧
    ∃ statements final,
      program {} (.ofTokens (inBraces (nestedBraces (maxNesting + 1)) unsettledTokens)) =
        .ok statements final ∧
      final.diagnostics.map Diagnostic.code = [some "P005", some "P004"] := by
  refine ⟨⟨_, derives_unsettledTokens⟩, ?_, ?_⟩
  · exact exists_run_of_blocks {} (areBraces_nestedBraces _) derives_unsettledTokens
      (by decide +kernel) (Nat.le_of_eq List.length_replicate)
  · have results : ((program {}).run'
        (.ofTokens (inBraces (nestedBraces (maxNesting + 1)) unsettledTokens))).isSome := by
      decide +kernel
    have codes : (stateBehind (program {})
        (.ofTokens (inBraces (nestedBraces (maxNesting + 1)) unsettledTokens))).diagnostics.map
          Diagnostic.code = [some "P005", some "P004"] := by decide +kernel
    obtain ⟨statements, results⟩ := Option.isSome_iff_exists.mp results
    exact ⟨statements, _, ok_of_run' results, codes⟩

end Programs

end NumericLanguage
