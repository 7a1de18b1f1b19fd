import NumericLanguage.Proofs.Reading.Run

/-!
# Everything is read, or names no type

At every place there is a reading, unless a declaration is begun there by a token that stands for a
type and spells none (`reads_or_misread`). Such a token ends the run with a failure that no rule
catches.
-/

set_option autoImplicit false

namespace NumericLanguage

open Parse ParseState

/-! ## Tokens that meet demands -/

/-- The next token is of a kind, or there is none that is. -/
theorem head_ne_or_exists_head (kind : TokenKind) (tokens : List Token) :
    (∀ next ∈ tokens.head?, next.kind ≠ kind) ∨
      ∃ token rest, tokens = token :: rest ∧ token.kind = kind := by
  cases tokens with
  | nil => exact .inl (by simp)
  | cons token rest =>
      by_cases same : token.kind = kind
      · exact .inr ⟨token, rest, rfl, same⟩
      · exact .inl (by simpa using same)

namespace Meets

variable {kind : TokenKind} {context : String} {demands : List Demand}
  {stream final : TokenStream}

theorem exists_token (meets : Meets (.token kind context :: demands) stream final) :
    ∃ token rest, stream.rest = token :: rest ∧ token.kind = kind ∧
      Meets demands ⟨token :: stream.consumed, rest, stream.stop⟩ final := by
  cases meets with
  | token same meets => exact ⟨_, _, rfl, same, meets⟩

/-- In front of a sign that ends an expression, what is captured is an expression. -/
theorem exists_expression
    (meets : Meets (.expression :: .token kind context :: demands) stream final) :
    ∃ expression ending rest, stream.rest = expression ++ ending :: rest ∧
      IsExpression expression ∧ ending.kind = kind ∧
      Meets demands ⟨ending :: (expression.reverse ++ stream.consumed), rest, stream.stop⟩
        final := by
  cases meets with
  | expression meets =>
      obtain ⟨ending, rest, split, same, meets⟩ := meets.exists_token
      have taken : stream.rest.take (captured 0 stream.rest).length = captured 0 stream.rest :=
        (List.prefix_iff_eq_take.mp <| captured_prefix 0 stream.rest).symm
      have whole : stream.rest = captured 0 stream.rest ++ ending :: rest := by
        rw [← split]
        exact (List.take_append_drop _ _).symm.trans (congrArg (· ++ _) taken)
      refine ⟨captured 0 stream.rest, ending, rest, whole, ?_, same, ?_⟩
      · exact isExpression_of_captured (congrArg (captured 0) whole.symm)
      · rw [TokenStream.behindExpression, TokenStream.moveOver, taken] at meets
        exact meets

end Meets

/-! ## Misread tokens -/

/-- A token that spells a type if it stands for one. -/
def Token.NamesType (token : Token) : Prop :=
  token.kind.isTypeName = true → ∃ type, ValueType.ofWord token.lexeme = .ok type

instance (token : Token) : Decidable token.NamesType :=
  decidable_of_iff
      (token.kind.isTypeName = true → (ValueType.ofWord token.lexeme).isOk = true) <| by
    unfold Token.NamesType
    cases ValueType.ofWord token.lexeme <;> simp [Except.isOk, Except.toBool]

/-- A step that fails at a place for good, whatever was found before, because some token behind
stands for a type and spells none. -/
def Misread {α : Type} (step : RedeclarationPolicy → Parse α) (stream : TokenStream) : Prop :=
  (∃ token ∈ stream.rest, ¬ token.NamesType) ∧
    ∀ policy nesting findings, Aborts (step policy (place stream nesting findings))

/-- A step fails for good if it leads to one that does. -/
theorem Misread.of_moves {α β : Type} {step : RedeclarationPolicy → Parse α}
    {whole : RedeclarationPolicy → Parse β} {stream later : TokenStream}
    (misread : Misread step later) (moves : stream.Moves later)
    (leads : ∀ policy,
      (∀ nesting findings, Aborts (step policy (place later nesting findings))) →
        ∀ nesting findings, Aborts (whole policy (place stream nesting findings))) :
    Misread whole stream := by
  obtain ⟨⟨token, behind, misnamed⟩, aborts⟩ := misread
  exact ⟨⟨token, moves.suffix.subset behind, misnamed⟩, fun policy => leads policy (aborts policy)⟩

/-! ## Items -/

section Total

variable {levels : Nat}

/-- What is not caught in an item is not caught behind it. -/
theorem declarationOrStatement_of_aborts {policy : RedeclarationPolicy} {inner : Parse Statement}
    {stream : TokenStream} {nesting : Nat} {findings : Findings}
    (aborts : Aborts ((if stream.atTypeName then variableDeclaration policy else inner)
      (place stream nesting findings))) :
    Aborts (declarationOrStatement policy inner (place stream nesting findings)) := by
  obtain ⟨failure, final, run, escapes⟩ := aborts
  have body : declarationOrStatement policy inner (place stream nesting findings) =
      tryCatch (some <$> if stream.atTypeName then variableDeclaration policy else inner)
        (goOn stream.position) (place stream nesting findings) := rfl
  rw [body, tryCatch_apply, map_apply, run]
  cases failure with
  | rejected rejection => exact absurd rfl (escapes rejection)
  | typeWord fault => exact ⟨_, final, rfl, escapes⟩
  | noOpenBlock fault => exact ⟨_, final, rfl, escapes⟩

/-- A declaration whose first token spells no type fails for good. -/
theorem misread_of_type {front rest : List Token} {typeToken stop : Token} {fault : TypeWordFault}
    (isType : typeToken.kind.isTypeName = true)
    (names : ValueType.ofWord typeToken.lexeme = .error fault) :
    Misread (fun policy => declarationOrStatement policy (statementWithin policy levels))
      ⟨front, typeToken :: rest, stop⟩ := by
  refine ⟨⟨typeToken, List.mem_cons_self, fun spells => ?_⟩, fun policy nesting findings => ?_⟩
  · obtain ⟨type, same⟩ := spells isType
    cases names.symm.trans same
  · refine declarationOrStatement_of_aborts ⟨.typeWord fault,
      place ⟨typeToken :: front, rest, stop⟩ nesting findings, ?_, fun _ same => nomatch same⟩
    have begins : TokenStream.atTypeName ⟨front, typeToken :: rest, stop⟩ = true := isType
    rw [begins, if_pos rfl, variableDeclaration, bind_of_ok advance_place]
    refine bind_of_error ?_
    rw [typeOf, names]
    rfl

/-- A declaration whose first token spells a type is read. -/
theorem exists_readsItem_of_type {front rest : List Token} {typeToken stop : Token}
    {type : ValueType} (isType : typeToken.kind.isTypeName = true)
    (names : ValueType.ofWord typeToken.lexeme = .ok type) :
    ∃ reading final, ReadsItem levels ⟨front, typeToken :: rest, stop⟩ reading final := by
  rcases meets_or_fails [.token .identifier "after the type"]
    ⟨typeToken :: front, rest, stop⟩ with ⟨final, meets⟩ | ⟨rejection, final, fails⟩
  · obtain ⟨name, rest, rfl, isName, -⟩ := meets.exists_token
    rcases head_ne_or_exists_head (.operator .assign) rest with
      noSign | ⟨sign, rest, rfl, isSign⟩
    · rcases meets_or_fails [.token (.operator .semicolon) "after the declaration"]
        ⟨name :: typeToken :: front, rest, stop⟩ with
        ⟨final, meets⟩ | ⟨rejection, final, fails⟩
      · obtain ⟨semicolon, rest, rfl, isSemicolon, -⟩ := meets.exists_token
        exact ⟨_, _, .declaration isType names isName isSemicolon⟩
      · exact ⟨_, _, .unended isType names isName noSign fails⟩
    · rcases meets_or_fails [.expression, .token (.operator .semicolon)
        "after the declaration"] ⟨sign :: name :: typeToken :: front, rest, stop⟩ with
        ⟨final, meets⟩ | ⟨rejection, final, fails⟩
      · obtain ⟨initial, semicolon, rest, rfl, isExpression, isSemicolon, -⟩ :=
          meets.exists_expression
        exact ⟨_, _, .initialized isType names isName isSign isExpression isSemicolon⟩
      · exact ⟨_, _, .unendedInitial isType names isName isSign fails⟩
  · exact ⟨_, _, .nameless isType names fails⟩

/-- At every place a statement is read, or the rule for statements fails for good. -/
def Total (levels : Nat) : Prop :=
  ∀ stream, (∃ reading final, Reads levels stream reading final) ∨
    Misread (statementWithin · levels) stream

theorem Total.item (total : Total levels) (stream : TokenStream) :
    (∃ reading final, ReadsItem levels stream reading final) ∨
      Misread (fun policy => declarationOrStatement policy (statementWithin policy levels))
        stream := by
  by_cases declares : ∀ first ∈ stream.rest.head?, first.kind.isTypeName = false
  · have other : stream.atTypeName = false := by
      obtain ⟨front, _ | ⟨first, rest⟩, stop⟩ := stream
      · rfl
      · exact declares first rfl
    rcases total stream with ⟨reading, final, reads⟩ | misread
    · exact .inl ⟨reading, final, .statement declares reads⟩
    · refine .inr (misread.of_moves (.refl _) ?_)
      intro policy aborts nesting findings
      refine declarationOrStatement_of_aborts ?_
      rw [other]
      exact aborts nesting findings
  · obtain ⟨front, _ | ⟨first, rest⟩, stop⟩ := stream
    · exact absurd (by simp) declares
    · have isType : first.kind.isTypeName = true := by simpa using declares
      cases names : ValueType.ofWord first.lexeme with
      | error fault => exact .inr (misread_of_type isType names)
      | ok type => exact .inl (exists_readsItem_of_type isType names)

/-- Items are read up to the place where they stop, or their repetition fails for good. -/
theorem Total.items (total : Total levels) {stops : TokenStream → Bool}
    (atEnd : StopsAtEnd stops) (stream : TokenStream) :
    (∃ readings final, ReadsItems stops levels stream readings final) ∨
      ((∃ token ∈ stream.rest, ¬ token.NamesType) ∧
        ∀ (policy : RedeclarationPolicy) (nesting : Nat) {step : Parse (Option Statement)},
          (∀ state : ParseState, state.nesting = nesting →
            step state = declarationOrStatement policy (statementWithin policy levels) state) →
          ∀ (findings : Findings) (fuel : Nat), stream.rest.length ≤ fuel →
            Aborts (untilStream stops step fuel (place stream nesting findings))) := by
  induction size : stream.rest.length using Nat.strongRecOn generalizing stream with
  | ind size ih =>
      cases stopped : stops stream with
      | true => exact .inl ⟨[], stream, .done stopped⟩
      | false =>
          have more := atEnd.rest_ne_nil stopped
          rcases total.item stream with ⟨reading, middle, item⟩ | ⟨misnamed, aborts⟩
          · have fewer := item.recovered_lt more
            rcases ih _ (size ▸ fewer) _ rfl with
              ⟨readings, final, items⟩ | ⟨⟨token, behind, misnamed⟩, aborts⟩
            · exact .inl ⟨reading :: readings, final, .next stopped item items⟩
            · have moves := item.moves.trans (TokenStream.moves_recovered middle stream
                reading.rejection?)
              refine .inr ⟨⟨token, moves.suffix.subset behind, misnamed⟩, ?_⟩
              intro policy nesting step agrees findings fuel enough
              obtain _ | fuel := fuel
              · omega
              · rw [untilStream_of_go stopped,
                  bind_of_ok ((agrees _ rfl).trans (item.run policy nesting findings))]
                exact (aborts policy nesting agrees _ fuel (by omega)).bind _
          · refine .inr ⟨misnamed, ?_⟩
            intro policy nesting step agrees findings fuel enough
            obtain _ | fuel := fuel
            · have some_left := List.length_pos_iff.mpr more
              omega
            · rw [untilStream_of_go stopped]
              refine Aborts.bind ?_ _
              rw [agrees _ rfl]
              exact aborts policy nesting findings

theorem Total.block (total : Total levels) (front body : List Token) (stop : Token)
    {opening : Token} (isOpening : opening.kind = .operator .leftBrace) :
    (∃ reading final, ReadsBlock levels ⟨front, opening :: body, stop⟩ reading final) ∨
      Misread (fun policy => blockStatement policy (statementWithin policy levels))
        ⟨front, opening :: body, stop⟩ := by
  rcases total.items stopsAtEnd_blockStops ⟨opening :: front, body, stop⟩ with
    ⟨readings, ⟨front', rest, stop'⟩, items⟩ | ⟨⟨token, behind, misnamed⟩, aborts⟩
  · left
    cases rest with
    | nil => exact ⟨_, _, .unclosed isOpening items⟩
    | cons closing rest =>
        have isClosing : closing.kind = .operator .rightBrace := by
          simpa [blockStops, TokenStream.startsWith, TokenStream.atEnd] using items.stopped
        exact ⟨_, _, .closed isOpening items isClosing⟩
  · refine .inr ⟨⟨token, List.mem_cons_of_mem _ behind, misnamed⟩, ?_⟩
    intro policy nesting findings
    change Aborts (blockStatement policy (statementWithin policy levels) _)
    rw [blockStatement, bind_of_ok (consume_of_eq isOpening)]
    refine Aborts.bind (inScope_of_aborts ?_) _
    rw [blockBody]
    refine Aborts.bind ?_ _
    rw [repeatUntil, bind_of_ok (get_apply _)]
    exact aborts policy nesting (fun _ _ => rfl) findings.enter _ (Nat.le_refl _)

theorem total_zero : Total 0 := fun _ => .inl ⟨_, _, .tooDeep⟩

/-- A statement fails for good if the rule that its leading token chooses does. -/
theorem misread_of_rule {front rest : List Token} {first stop : Token}
    (misread : Misread (fun policy => ruleFor policy (statementWithin policy levels) first.kind)
      ⟨front, first :: rest, stop⟩) :
    Misread (statementWithin · (levels + 1)) ⟨front, first :: rest, stop⟩ := by
  refine misread.of_moves (.refl _) ?_
  intro policy aborts nesting findings
  rw [statementWithin]
  refine nested_of_aborts ?_
  rw [statementBody_cons]
  exact aborts (nesting + 1) findings

/-- A conditional is read with its branches, unless one of them fails for good. -/
theorem Total.conditional (total : Total levels) {front condition body : List Token}
    {keyword opening closing thenToken stop : Token} (isKeyword : keyword.kind = .keyword .ifWord)
    (isOpening : opening.kind = .operator .leftParen) (isExpression : IsExpression condition)
    (isClosing : closing.kind = .operator .rightParen)
    (isThen : thenToken.kind = .keyword .thenWord) :
    (∃ reading final, Reads (levels + 1)
      ⟨front, keyword :: opening :: (condition ++ closing :: thenToken :: body), stop⟩
      reading final) ∨
      Misread (statementWithin · (levels + 1))
        ⟨front, keyword :: opening :: (condition ++ closing :: thenToken :: body), stop⟩ := by
  have moves : TokenStream.Moves
      ⟨front, keyword :: opening :: (condition ++ closing :: thenToken :: body), stop⟩
      ⟨thenToken :: closing :: (condition.reverse ++ opening :: keyword :: front), body, stop⟩ :=
    ⟨keyword :: opening :: (condition ++ [closing, thenToken]), body, by simp, by simp⟩
  have head (policy : RedeclarationPolicy) (nesting : Nat) (findings : Findings) :
      ruleFor policy (statementWithin policy levels) keyword.kind
          (place ⟨front, keyword :: opening :: (condition ++ closing :: thenToken :: body), stop⟩
            nesting findings) =
        branches (statementWithin policy levels) keyword condition (findings.table.infer condition)
          (place ⟨thenToken :: closing :: (condition.reverse ++ opening :: keyword :: front),
            body, stop⟩ nesting
            (findings.checkCondition keyword condition (findings.table.infer condition))) := by
    rw [isKeyword]
    exact conditionalStatement_head isOpening isExpression isClosing isThen
  rcases total ⟨thenToken :: closing :: (condition.reverse ++ opening :: keyword :: front), body,
    stop⟩ with ⟨consequence, ⟨front', rest, stop'⟩, reads⟩ | misread
  · cases complete : consequence.rejection? with
    | some rejection =>
        refine .inl ⟨_, _, .ifThen isKeyword isOpening isExpression isClosing isThen reads ?_⟩
        intro other
        cases complete.symm.trans other
    | none =>
        rcases head_ne_or_exists_head (.keyword .elseWord) rest with
          noElse | ⟨elseToken, behind, rfl, isElse⟩
        · exact .inl ⟨_, _, .ifThen isKeyword isOpening isExpression isClosing isThen reads
            fun _ => noElse⟩
        · rcases total ⟨elseToken :: front', behind, stop'⟩ with
            ⟨alternative, final, other⟩ | misread
          · exact .inl ⟨_, _, .ifThenElse isKeyword isOpening isExpression isClosing isThen reads
              complete isElse other⟩
          · refine .inr (misread_of_rule (misread.of_moves
              (moves.trans (reads.moves.trans (.one _ _ _ _))) ?_))
            intro policy aborts nesting findings
            have inside := reads.run policy nesting (findings.checkCondition keyword condition
              (findings.table.infer condition))
            obtain ⟨first, same⟩ := ParseTree.exists_of_complete policy complete
              (findings.checkCondition keyword condition (findings.table.infer condition))
            rw [← Prod.eta (ParseTree.effect policy _ _), same] at inside
            rw [head, branches, bind_of_ok inside, bind_of_ok (accept_of_eq isElse), if_pos rfl]
            exact (aborts nesting _).bind _
  · refine .inr (misread_of_rule (misread.of_moves moves ?_))
    intro policy aborts nesting findings
    rw [head]
    exact (aborts nesting _).bind _

/-- A loop is read with its block, unless the block fails for good. -/
theorem Total.loop (total : Total levels) {front condition body : List Token}
    {keyword opening closing brace stop : Token} (isKeyword : keyword.kind = .keyword .whileWord)
    (isOpening : opening.kind = .operator .leftParen) (isExpression : IsExpression condition)
    (isClosing : closing.kind = .operator .rightParen)
    (isBrace : brace.kind = .operator .leftBrace) :
    (∃ reading final, Reads (levels + 1)
      ⟨front, keyword :: opening :: (condition ++ closing :: brace :: body), stop⟩
      reading final) ∨
      Misread (statementWithin · (levels + 1))
        ⟨front, keyword :: opening :: (condition ++ closing :: brace :: body), stop⟩ := by
  rcases total.block (closing :: (condition.reverse ++ opening :: keyword :: front)) body stop
    isBrace with ⟨block, final, reads⟩ | misread
  · exact .inl ⟨_, _, .loop isKeyword isOpening isExpression isClosing reads⟩
  · have moves : TokenStream.Moves
        ⟨front, keyword :: opening :: (condition ++ closing :: brace :: body), stop⟩
        ⟨closing :: (condition.reverse ++ opening :: keyword :: front), brace :: body, stop⟩ :=
      ⟨keyword :: opening :: (condition ++ [closing]), brace :: body, by simp, by simp⟩
    refine .inr (misread_of_rule (misread.of_moves moves ?_))
    intro policy aborts nesting findings
    rw [isKeyword]
    change Aborts (loopStatement policy (statementWithin policy levels) _)
    rw [loopStatement, bind_of_ok advance_place, bind_of_ok (consume_of_eq isOpening),
      bind_of_ok (capture_of_isExpression isExpression (by rw [isClosing]; rfl)),
      bind_of_ok (consume_of_eq isClosing), bind_of_ok (expect_of_eq isBrace)]
    exact (aborts nesting findings).bind _

/-- A statement that begins with a keyword is read, or fails for good inside. -/
theorem Total.keyword (total : Total levels) {front rest : List Token} {keyword stop : Token}
    {word : Keyword} (isKeyword : keyword.kind = .keyword word)
    (selects : keyword.kind.selectsStatement = true) :
    (∃ reading final, Reads (levels + 1) ⟨front, keyword :: rest, stop⟩ reading final) ∨
      Misread (statementWithin · (levels + 1)) ⟨front, keyword :: rest, stop⟩ := by
  rcases meets_or_fails word.demands ⟨keyword :: front, rest, stop⟩ with
    ⟨final, meets⟩ | ⟨rejection, final, fails⟩
  · rw [isKeyword] at selects
    cases word with
    | readWord =>
        obtain ⟨opening, rest, rfl, isOpening, meets⟩ := meets.exists_token
        obtain ⟨name, rest, rfl, isName, meets⟩ := meets.exists_token
        obtain ⟨closing, rest, rfl, isClosing, meets⟩ := meets.exists_token
        obtain ⟨semicolon, rest, rfl, isSemicolon, -⟩ := meets.exists_token
        exact .inl ⟨_, _, .read isKeyword isOpening isName isClosing isSemicolon⟩
    | writeWord =>
        obtain ⟨opening, rest, rfl, isOpening, meets⟩ := meets.exists_token
        obtain ⟨expression, closing, rest, rfl, isExpression, isClosing, meets⟩ :=
          meets.exists_expression
        obtain ⟨semicolon, rest, rfl, isSemicolon, -⟩ := meets.exists_token
        exact .inl ⟨_, _, .write isKeyword isOpening isExpression isClosing isSemicolon⟩
    | ifWord =>
        obtain ⟨opening, rest, rfl, isOpening, meets⟩ := meets.exists_token
        obtain ⟨condition, closing, rest, rfl, isExpression, isClosing, meets⟩ :=
          meets.exists_expression
        obtain ⟨thenToken, rest, rfl, isThen, -⟩ := meets.exists_token
        exact total.conditional isKeyword isOpening isExpression isClosing isThen
    | whileWord =>
        obtain ⟨opening, rest, rfl, isOpening, meets⟩ := meets.exists_token
        obtain ⟨condition, closing, rest, rfl, isExpression, isClosing, meets⟩ :=
          meets.exists_expression
        obtain ⟨brace, rest, rfl, isBrace, -⟩ := meets.exists_token
        exact total.loop isKeyword isOpening isExpression isClosing isBrace
    | _ => cases selects
  · exact .inl ⟨_, _, .keywordFails isKeyword fails⟩

/-- A statement that begins with neither a keyword nor a brace is read. -/
theorem exists_reads_of_not_selects {stream : TokenStream}
    (other : ∀ first ∈ stream.rest.head?, first.kind.selectsStatement = false) :
    ∃ reading final, Reads (levels + 1) stream reading final := by
  rcases meets_or_fails expressionDemands stream with ⟨final, meets⟩ | ⟨rejection, final, fails⟩
  · obtain ⟨tokens, semicolon, rest, split, isExpression, isSemicolon, -⟩ := meets.exists_expression
    obtain ⟨front, input, stop⟩ := stream
    cases split
    refine ⟨_, _, .expression isExpression isSemicolon ?_⟩
    cases tokens with
    | nil => exact other semicolon rfl
    | cons first others => exact other first rfl
  · exact ⟨_, _, .expressionFails other fails⟩

theorem Total.succ (total : Total levels) : Total (levels + 1) := by
  rintro ⟨front, _ | ⟨first, rest⟩, stop⟩
  · exact .inl (exists_reads_of_not_selects (by simp))
  · cases selects : first.kind.selectsStatement with
    | false => exact .inl (exists_reads_of_not_selects (by simpa using selects))
    | true =>
        rcases first_kind : first.kind with _ | _ | _ | _ | _ | word | sign
        case keyword => exact total.keyword first_kind selects
        case operator =>
          have isBrace : first.kind = .operator .leftBrace := by
            rw [first_kind] at selects ⊢
            cases sign <;> first | rfl | cases selects
          rcases total.block front rest stop isBrace with ⟨block, final, reads⟩ | misread
          · exact .inl ⟨block, final, .block reads⟩
          · refine .inr (misread_of_rule ?_)
            rw [isBrace]
            exact misread
        all_goals
          rw [first_kind] at selects
          cases selects

end Total

/-- **Everything is read, or misread.** -/
theorem reads_or_misread (levels : Nat) : Total levels := by
  induction levels with
  | zero => exact total_zero
  | succ levels ih => exact ih.succ

end NumericLanguage
