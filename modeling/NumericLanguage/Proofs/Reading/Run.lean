import NumericLanguage.Proofs.Reading.Relation

/-!
# Readings are what the rules do

Where tokens are read, the rules run as the reading says: they stop at its place, with its record
or its rejection, and leave its findings (`Reads.run`, `ReadsItems.run`). The rules are taken one by
one, each under the assumption that the statements inside the current one run as they are read.
-/

set_option autoImplicit false

namespace NumericLanguage

open ParseState

/-! ## Demands that are not met -/

namespace Fails

variable {α : Type} {kind : TokenKind} {context : String} {demands : List Demand}
  {stream final : TokenStream} {rejection : Rejection} {nesting : Nat} {findings : Findings}

/-- A rule that asks for a token fails there, or behind it. -/
theorem consume_bind {next : Token → Parse α}
    (fails : Fails (.token kind context :: demands) stream rejection final)
    (others : ∀ (token : Token) (behind : TokenStream), Fails demands behind rejection final →
      next token (place behind nesting findings) =
        .error (.rejected rejection) (place final nesting findings)) :
    (Parse.consume kind context >>= next) (place stream nesting findings) =
      .error (.rejected rejection) (place final nesting findings) := by
  cases fails with
  | here other => exact bind_of_error (Parse.consume_of_ne other)
  | token same fails =>
      exact (bind_of_ok (Parse.consume_of_eq same)).trans (others _ _ fails)

theorem expect_bind {next : Unit → Parse α} (fails : Fails [.token kind context] stream rejection
    final) :
    (Parse.expect kind context >>= next) (place stream nesting findings) =
      .error (.rejected rejection) (place final nesting findings) := by
  cases fails with
  | here other => exact bind_of_error (Parse.expect_of_ne other)
  | token _ fails => nomatch fails

theorem capture_bind {next : List Token → Parse α}
    (fails : Fails (.expression :: demands) stream rejection final)
    (others : ∀ (expression : List Token) (behind : TokenStream),
      Fails demands behind rejection final →
      next expression (place behind nesting findings) =
        .error (.rejected rejection) (place final nesting findings)) :
    (Parse.capture >>= next) (place stream nesting findings) =
      .error (.rejected rejection) (place final nesting findings) := by
  cases fails with
  | expression fails => exact (bind_of_ok Parse.capture_place).trans (others _ _ fails)

end Fails

namespace Parse

variable {front rest : List Token} {stop : Token} {stream final : TokenStream} {nesting : Nat}
  {findings : Findings} {policy : RedeclarationPolicy} {inner : Parse Statement}
  {rejection : Rejection}

/-! ## The rule that the leading token chooses -/

/-- The rule for a statement whose leading token has a given kind. -/
def ruleFor (policy : RedeclarationPolicy) (inner : Parse Statement) :
    TokenKind → Parse Statement
  | .keyword .readWord => readStatement
  | .keyword .writeWord => writeStatement
  | .keyword .ifWord => conditionalStatement inner
  | .keyword .whileWord => loopStatement policy inner
  | .operator .leftBrace => blockStatement policy inner
  | _ => expressionStatement

theorem statementBody_cons (first : Token) :
    statementBody policy inner (place ⟨front, first :: rest, stop⟩ nesting findings) =
      ruleFor policy inner first.kind (place ⟨front, first :: rest, stop⟩ nesting findings) := by
  obtain ⟨kind, lexeme, value, location⟩ := first
  cases kind with
  | keyword word => cases word <;> rfl
  | operator sign => cases sign <;> rfl
  | _ => rfl

/-- A token that selects no production begins an expression. -/
theorem ruleFor_of_not_selects {kind : TokenKind} (other : kind.selectsStatement = false) :
    ruleFor policy inner kind = expressionStatement := by
  unfold ruleFor
  split <;> first | rfl | cases other

theorem statementBody_of_not_selects
    (other : ∀ first ∈ stream.rest.head?, first.kind.selectsStatement = false) :
    statementBody policy inner (place stream nesting findings) =
      expressionStatement (place stream nesting findings) := by
  obtain ⟨front, _ | ⟨first, rest⟩, stop⟩ := stream
  · rfl
  · rw [statementBody_cons, ruleFor_of_not_selects (other first rfl)]

theorem capture_of_isExpression {expression : List Token} (isExpression : IsExpression expression)
    {ending : Token} (ends : ending.kind.endsExpression = true) :
    capture (place ⟨front, expression ++ ending :: rest, stop⟩ nesting findings) =
      .ok expression (place ⟨expression.reverse ++ front, ending :: rest, stop⟩ nesting
        findings) := by
  rw [capture_place, isExpression.captured_append ends, TokenStream.moveOver, List.take_left,
    List.drop_left]

/-! ## Simple statements -/

theorem readStatement_run {keyword opening name closing semicolon : Token}
    (isOpening : opening.kind = .operator .leftParen) (isName : name.kind = .identifier)
    (isClosing : closing.kind = .operator .rightParen)
    (isSemicolon : semicolon.kind = .operator .semicolon) :
    readStatement
        (place ⟨front, keyword :: opening :: name :: closing :: semicolon :: rest, stop⟩ nesting
          findings) =
      ended ⟨semicolon :: closing :: name :: opening :: keyword :: front, rest, stop⟩ nesting
        ((ParseTree.read keyword name).effect policy findings) := by
  rw [readStatement, bind_of_ok advance_place, bind_of_ok (consume_of_eq isOpening),
    bind_of_ok (consume_of_eq isName), bind_of_ok (consume_of_eq isClosing),
    bind_of_ok (consume_of_eq isSemicolon), bind_of_ok (get_apply _)]
  unfold ParseTree.effect Findings.checkName ended
  cases visible : findings.table.lookup name.lexeme <;> simp [place, visible] <;> rfl

theorem readStatement_fails {keyword : Token}
    (fails : Fails Keyword.readWord.demands ⟨keyword :: front, rest, stop⟩ rejection final) :
    readStatement (place ⟨front, keyword :: rest, stop⟩ nesting findings) =
      .error (.rejected rejection) (place final nesting findings) := by
  rw [readStatement, bind_of_ok advance_place]
  exact fails.consume_bind fun _ _ fails => fails.consume_bind fun _ _ fails =>
    fails.consume_bind fun _ _ fails => fails.consume_bind fun _ _ fails => nomatch fails

theorem writeStatement_run {keyword opening closing semicolon : Token} {expression : List Token}
    (isOpening : opening.kind = .operator .leftParen) (isExpression : IsExpression expression)
    (isClosing : closing.kind = .operator .rightParen)
    (isSemicolon : semicolon.kind = .operator .semicolon) :
    writeStatement
        (place ⟨front, keyword :: opening :: (expression ++ closing :: semicolon :: rest), stop⟩
          nesting findings) =
      ended ⟨semicolon :: closing :: (expression.reverse ++ opening :: keyword :: front), rest,
        stop⟩ nesting ((ParseTree.write keyword expression).effect policy findings) := by
  rw [writeStatement, bind_of_ok advance_place, bind_of_ok (consume_of_eq isOpening),
    bind_of_ok (capture_of_isExpression isExpression (by rw [isClosing]; rfl)),
    bind_of_ok (consume_of_eq isClosing), bind_of_ok (consume_of_eq isSemicolon),
    bind_of_ok (checkLeadingName_place _), bind_of_ok (get_apply _), pure_apply]
  rfl

theorem writeStatement_fails {keyword : Token}
    (fails : Fails Keyword.writeWord.demands ⟨keyword :: front, rest, stop⟩ rejection final) :
    writeStatement (place ⟨front, keyword :: rest, stop⟩ nesting findings) =
      .error (.rejected rejection) (place final nesting findings) := by
  rw [writeStatement, bind_of_ok advance_place]
  exact fails.consume_bind fun _ _ fails => fails.capture_bind fun _ _ fails =>
    fails.consume_bind fun _ _ fails => fails.consume_bind fun _ _ fails => nomatch fails

theorem expressionStatement_run {semicolon : Token} {tokens : List Token}
    (isExpression : IsExpression tokens) (isSemicolon : semicolon.kind = .operator .semicolon) :
    expressionStatement (place ⟨front, tokens ++ semicolon :: rest, stop⟩ nesting findings) =
      ended ⟨semicolon :: (tokens.reverse ++ front), rest, stop⟩ nesting
        ((ParseTree.expression tokens semicolon).effect policy findings) := by
  have head : TokenStream.peek ⟨front, tokens ++ semicolon :: rest, stop⟩ =
      tokens.head?.getD semicolon := by
    cases tokens <;> rfl
  rw [expressionStatement, bind_of_ok peek_place,
    bind_of_ok (capture_of_isExpression isExpression (by rw [isSemicolon]; rfl)),
    bind_of_ok (consume_of_eq isSemicolon), head]
  unfold ParseTree.effect ParseTree.expressionEffect
  cases shape : assignment? tokens with
  | none => simp only [Heading.toStatement, Heading.target, shape]; rfl
  | some parts =>
      obtain ⟨target, value⟩ := parts
      simp only [bind_of_ok (get_apply _), bind_of_ok (checkAssignment_place _ _)]
      simp only [Heading.toStatement, Heading.target, shape]
      rfl

theorem expressionStatement_fails (fails : Fails expressionDemands stream rejection final) :
    expressionStatement (place stream nesting findings) =
      .error (.rejected rejection) (place final nesting findings) := by
  rw [expressionStatement, bind_of_ok peek_place]
  exact fails.capture_bind fun _ _ fails => fails.consume_bind fun _ _ fails => nomatch fails

/-! ## Declarations -/

theorem typeOf_of_ok {token : Token} {type : ValueType}
    (names : ValueType.ofWord token.lexeme = .ok type) (state : ParseState) :
    typeOf token state = .ok type state := by
  rw [typeOf, names]
  rfl

theorem initializer_of_ne (other : ∀ next ∈ stream.rest.head?, next.kind ≠ .operator .assign) :
    initializer (place stream nesting findings) = .ok none (place stream nesting findings) := by
  rw [initializer, bind_of_ok (accept_of_ne other)]
  rfl

theorem initializer_of_eq {sign : Token} (isSign : sign.kind = .operator .assign) :
    initializer (place ⟨front, sign :: rest, stop⟩ nesting findings) =
      .ok (some (captured 0 rest, findings.table.infer (captured 0 rest)))
        (place (TokenStream.behindExpression ⟨sign :: front, rest, stop⟩) nesting findings) := by
  rw [initializer, bind_of_ok (accept_of_eq isSign), if_pos rfl, bind_of_ok capture_place,
    bind_of_ok (get_apply _), pure_apply]
  rfl

theorem initializer_of_isExpression {sign ending : Token} {initial : List Token}
    (isSign : sign.kind = .operator .assign) (isExpression : IsExpression initial)
    (ends : ending.kind.endsExpression = true) :
    initializer (place ⟨front, sign :: (initial ++ ending :: rest), stop⟩ nesting findings) =
      .ok (some (initial, findings.table.infer initial))
        (place ⟨initial.reverse ++ sign :: front, ending :: rest, stop⟩ nesting findings) := by
  rw [initializer, bind_of_ok (accept_of_eq isSign), if_pos rfl,
    bind_of_ok (capture_of_isExpression isExpression ends), bind_of_ok (get_apply _), pure_apply]
  rfl

/-- A declaration behind its name and its initial value, if the name was declared. -/
def declarationEnd (typeToken name : Token) (isNew : Bool)
    (initial : Option (List Token × ValueType)) : Parse Statement := do
  if isNew then
    storeInitialValue name ((initial.map Prod.fst).getD [])
  let _ ← consume (.operator .semicolon) "after the declaration"
  return {
    kind := .declaration
    content := declarationContent typeToken name (initial.map Prod.fst)
    location := typeToken.location
    type := initial.map Prod.snd
    target := some name.lexeme }

/-- A type and a name lead to the initial value, with the name declared. -/
theorem variableDeclaration_head {typeToken name : Token} {type : ValueType}
    (names : ValueType.ofWord typeToken.lexeme = .ok type) (isName : name.kind = .identifier) :
    variableDeclaration policy (place ⟨front, typeToken :: name :: rest, stop⟩ nesting findings) =
      (initializer >>= declarationEnd typeToken name
          (findings.declare policy type typeToken.location.line name).1)
        (place ⟨name :: typeToken :: front, rest, stop⟩ nesting
          (findings.declare policy type typeToken.location.line name).2) := by
  rw [variableDeclaration, bind_of_ok advance_place, bind_of_ok (typeOf_of_ok names _),
    bind_of_ok (consume_of_eq isName), bind_of_ok (declareName_place _ _ _ _)]
  rfl

theorem variableDeclaration_nameless {typeToken : Token} {type : ValueType}
    (names : ValueType.ofWord typeToken.lexeme = .ok type)
    (fails : Fails [.token .identifier "after the type"] ⟨typeToken :: front, rest, stop⟩
      rejection final) :
    variableDeclaration policy (place ⟨front, typeToken :: rest, stop⟩ nesting findings) =
      .error (.rejected rejection) (place final nesting findings) := by
  rw [variableDeclaration, bind_of_ok advance_place, bind_of_ok (typeOf_of_ok names _)]
  exact fails.consume_bind fun _ _ fails => nomatch fails

section DeclarationEnd

variable {typeToken name : Token} {isNew : Bool} {initial : Option (List Token × ValueType)}

/-- The value is stored before the semicolon is looked for. -/
theorem declarationEnd_apply :
    declarationEnd typeToken name isNew initial (place stream nesting findings) =
      (consume (.operator .semicolon) "after the declaration" >>= fun _ => pure
          ((Heading.declaration typeToken name (initial.map Prod.fst)).toStatement
            (initial.map Prod.snd) []) : Parse Statement)
        (place stream nesting
          (if isNew then findings.storeInitialValue name ((initial.map Prod.fst).getD [])
            else findings)) := by
  cases isNew with
  | false => rfl
  | true => exact bind_of_ok (storeInitialValue_place name _)

theorem declarationEnd_run {semicolon : Token}
    (isSemicolon : semicolon.kind = .operator .semicolon) :
    declarationEnd typeToken name isNew initial
        (place ⟨front, semicolon :: rest, stop⟩ nesting findings) =
      .ok ((Heading.declaration typeToken name (initial.map Prod.fst)).toStatement
          (initial.map Prod.snd) [])
        (place ⟨semicolon :: front, rest, stop⟩ nesting
          (if isNew then findings.storeInitialValue name ((initial.map Prod.fst).getD [])
            else findings)) := by
  rw [declarationEnd_apply, bind_of_ok (consume_of_eq isSemicolon), pure_apply]

theorem declarationEnd_fails
    (fails : Fails [.token (.operator .semicolon) "after the declaration"] stream rejection
      final) :
    declarationEnd typeToken name isNew initial (place stream nesting findings) =
      .error (.rejected rejection)
        (place final nesting
          (if isNew then findings.storeInitialValue name ((initial.map Prod.fst).getD [])
            else findings)) := by
  rw [declarationEnd_apply]
  exact fails.consume_bind fun _ _ fails => nomatch fails

end DeclarationEnd

/-! ## Statements with parts -/

/-- A conditional behind its `then`. -/
def branches (inner : Parse Statement) (keyword : Token) (condition : List Token)
    (type : ValueType) : Parse Statement := do
  let consequence ← inner
  let content := "if (" ++ Token.spelledOut condition ++ ")"
  if ← accept (.keyword .elseWord) then
    let alternative ← inner
    return {
      kind := .conditional
      content := content ++ " [else]"
      location := keyword.location
      type := some type
      children := [consequence, alternative] }
  return {
    kind := .conditional
    content := content
    location := keyword.location
    type := some type
    children := [consequence] }

/-- The head of a conditional leads to its branches, with the condition checked. -/
theorem conditionalStatement_head {keyword opening closing thenToken : Token}
    {condition body : List Token} (isOpening : opening.kind = .operator .leftParen)
    (isExpression : IsExpression condition) (isClosing : closing.kind = .operator .rightParen)
    (isThen : thenToken.kind = .keyword .thenWord) :
    conditionalStatement inner
        (place ⟨front, keyword :: opening :: (condition ++ closing :: thenToken :: body), stop⟩
          nesting findings) =
      branches inner keyword condition (findings.table.infer condition)
        (place ⟨thenToken :: closing :: (condition.reverse ++ opening :: keyword :: front), body,
          stop⟩ nesting
          (findings.checkCondition keyword condition (findings.table.infer condition))) := by
  rw [conditionalStatement, bind_of_ok advance_place, bind_of_ok (consume_of_eq isOpening),
    bind_of_ok (capture_of_isExpression isExpression (by rw [isClosing]; rfl)),
    bind_of_ok (consume_of_eq isClosing), bind_of_ok (consume_of_eq isThen),
    bind_of_ok (get_apply _), table_place, bind_of_ok (checkCondition_place _ _ _)]
  rfl

theorem conditionalStatement_fails {keyword : Token}
    (fails : Fails Keyword.ifWord.demands ⟨keyword :: front, rest, stop⟩ rejection final) :
    conditionalStatement inner (place ⟨front, keyword :: rest, stop⟩ nesting findings) =
      .error (.rejected rejection) (place final nesting findings) := by
  rw [conditionalStatement, bind_of_ok advance_place]
  exact fails.consume_bind fun _ _ fails => fails.capture_bind fun _ _ fails =>
    fails.consume_bind fun _ _ fails => fails.consume_bind fun _ _ fails => nomatch fails

section Branches

variable {keyword : Token} {condition : List Token} {type : ValueType}

/-- Without `else` a conditional ends where its consequence does. -/
theorem branches_run_ifThen {outcome : Except Rejection Statement × Findings}
    (inside : inner (place stream nesting findings) = ended final nesting outcome)
    (noElse : ∀ first, outcome.1 = .ok first →
      ∀ next ∈ final.rest.head?, next.kind ≠ .keyword .elseWord) :
    branches inner keyword condition type (place stream nesting findings) =
      ended final nesting
        (outcome.1.map fun first =>
          (Heading.ifThen keyword condition).toStatement (some type) [first], outcome.2) := by
  obtain ⟨rejection | first, found⟩ := outcome
  · exact bind_of_error inside
  · rw [branches, bind_of_ok inside, bind_of_ok (accept_of_ne (noElse first rfl))]
    rfl

/-- With `else` a conditional ends where its alternative does. -/
theorem branches_run_ifThenElse {front' behind : List Token} {elseToken stop' : Token}
    {outcome other : Except Rejection Statement × Findings}
    (inside : inner (place stream nesting findings) =
      ended ⟨front', elseToken :: behind, stop'⟩ nesting outcome)
    (complete : ∃ first, outcome.1 = .ok first) (isElse : elseToken.kind = .keyword .elseWord)
    (otherwise : inner (place ⟨elseToken :: front', behind, stop'⟩ nesting outcome.2) =
      ended final nesting other) :
    branches inner keyword condition type (place stream nesting findings) =
      ended final nesting
        (outcome.1.bind fun first => other.1.map fun second =>
          (Heading.ifThenElse keyword condition).toStatement (some type) [first, second],
          other.2) := by
  obtain ⟨result, between⟩ := outcome
  obtain ⟨first, rfl⟩ := complete
  rw [branches, bind_of_ok inside, bind_of_ok (accept_of_eq isElse), if_pos rfl]
  obtain ⟨rejection | second, found⟩ := other
  · exact bind_of_error otherwise
  · exact bind_of_ok otherwise

end Branches

/-- The head of a loop leads to its block. -/
theorem loopStatement_run {keyword opening closing brace : Token} {condition body : List Token}
    {outcome : Except Rejection Statement × Findings}
    (isOpening : opening.kind = .operator .leftParen) (isExpression : IsExpression condition)
    (isClosing : closing.kind = .operator .rightParen)
    (isBrace : brace.kind = .operator .leftBrace)
    (run : blockStatement policy inner
        (place ⟨closing :: (condition.reverse ++ opening :: keyword :: front), brace :: body,
          stop⟩ nesting findings) =
      ended final nesting outcome) :
    loopStatement policy inner
        (place ⟨front, keyword :: opening :: (condition ++ closing :: brace :: body), stop⟩
          nesting findings) =
      ended final nesting
        (outcome.1.map fun inside => (Heading.loop keyword condition).toStatement
          (some (outcome.2.table.infer condition)) [inside], outcome.2) := by
  rw [loopStatement, bind_of_ok advance_place, bind_of_ok (consume_of_eq isOpening),
    bind_of_ok (capture_of_isExpression isExpression (by rw [isClosing]; rfl)),
    bind_of_ok (consume_of_eq isClosing), bind_of_ok (expect_of_eq isBrace)]
  obtain ⟨rejection | inside, found⟩ := outcome
  · exact bind_of_error run
  · exact bind_of_ok run

theorem loopStatement_fails {keyword : Token}
    (fails : Fails Keyword.whileWord.demands ⟨keyword :: front, rest, stop⟩ rejection final) :
    loopStatement policy inner (place ⟨front, keyword :: rest, stop⟩ nesting findings) =
      .error (.rejected rejection) (place final nesting findings) := by
  rw [loopStatement, bind_of_ok advance_place]
  exact fails.consume_bind fun _ _ fails => fails.capture_bind fun _ _ fails =>
    fails.consume_bind fun _ _ fails => fails.expect_bind

/-! ## Blocks -/

section Blocks

variable {opening : Token} {body front' : List Token} {children : List Statement}
  {found : Findings} {stop' : Token}

theorem blockBody_closed {closing : Token} (isClosing : closing.kind = .operator .rightBrace)
    (repeats : Repeats blockStops (declarationOrStatement policy inner)
      (place stream nesting findings) children
      (place ⟨front', closing :: rest, stop'⟩ nesting found)) :
    blockBody policy inner opening (place stream nesting findings) =
      .ok children (place ⟨closing :: front', rest, stop'⟩ nesting
        (ParseTree.close opening none found)) := by
  rw [blockBody]
  refine (bind_of_ok repeats.repeatUntil).trans ?_
  rw [bind_of_ok (accept_of_eq isClosing)]
  rfl

theorem blockBody_unclosed
    (repeats : Repeats blockStops (declarationOrStatement policy inner)
      (place stream nesting findings) children (place ⟨front', [], stop'⟩ nesting found)) :
    blockBody policy inner opening (place stream nesting findings) =
      .ok children (place ⟨front', [], stop'⟩ nesting
        (ParseTree.close opening (some stop') found)) := by
  rw [blockBody]
  refine (bind_of_ok repeats.repeatUntil).trans ?_
  rw [bind_of_ok (accept_of_ne (by simp))]
  rfl

/-- The items of a block are read inside a new scope. -/
theorem blockStatement_run {missing : Option Token}
    (isOpening : opening.kind = .operator .leftBrace)
    (run : blockBody policy inner opening
        (place ⟨opening :: front, body, stop⟩ nesting findings.enter) =
      .ok children (place final nesting (ParseTree.close opening missing found)))
    (inside : found.table.enclosing ≠ []) :
    blockStatement policy inner (place ⟨front, opening :: body, stop⟩ nesting findings) =
      .ok ((Heading.block opening).toStatement none children)
        (place final nesting (ParseTree.close opening missing found).leave) := by
  rw [blockStatement, bind_of_ok (consume_of_eq isOpening), bind_of_ok (inScope_of_ok run
    (by rwa [ParseTree.table_close]))]
  rfl

end Blocks

/-! ## Items -/

/-- Recovery leads to the place at which the next item is read. -/
theorem recover_place (start : TokenStream) (rejection : Rejection) :
    recover start.position rejection.fault.needsRecovery (place stream nesting findings) =
      .ok () (place (stream.recovered start (some rejection)) nesting findings) := by
  rw [TokenStream.recovered_some, TokenStream.resumedAfter]
  unfold recover
  cases rejection.fault.needsRecovery with
  | false =>
      by_cases stays : stream.position = start.position
      · simp [bind_apply, get_apply, place, stays, moveOver]
        rfl
      · simp [bind_apply, get_apply, place, stays, pure_apply]
  | true =>
      have resumed : resume (place stream nesting findings) =
          .ok () (place stream.resumed nesting findings) := rfl
      rw [if_pos rfl, bind_of_ok resumed]
      by_cases stays : stream.resumed.position = start.position
      · simp [bind_apply, get_apply, place, stays, moveOver]
        rfl
      · simp [bind_apply, get_apply, place, stays, pure_apply]

/-- An abandoned item is recorded, and what is read next is where recovery leads to. -/
theorem declarationOrStatement_of_ended {middle : TokenStream} {reading : ParseTree}
    (run : (if stream.atTypeName then variableDeclaration policy else inner)
        (place stream nesting findings) =
      ended middle nesting (reading.effect policy findings)) :
    declarationOrStatement policy inner (place stream nesting findings) =
      .ok (reading.effect policy findings).1.toOption
        (place (middle.recovered stream reading.rejection?) nesting
          (ParseTree.settle (reading.effect policy findings))) := by
  have body : declarationOrStatement policy inner (place stream nesting findings) =
      tryCatch (some <$> if stream.atTypeName then variableDeclaration policy else inner)
        (goOn stream.position) (place stream nesting findings) := rfl
  rw [body, tryCatch_apply, map_apply, run]
  cases abandoned : reading.rejection? with
  | none =>
      obtain ⟨statement, same⟩ := ParseTree.exists_of_complete policy abandoned findings
      rw [ParseTree.settle]
      generalize reading.effect policy findings = outcome at *
      obtain ⟨result, found⟩ := outcome
      cases same
      rfl
  | some rejection =>
      have same := ParseTree.effect_of_rejection policy abandoned findings
      rw [ParseTree.settle]
      generalize reading.effect policy findings = outcome at *
      obtain ⟨result, found⟩ := outcome
      cases same
      simp only [ended, goOn]
      rw [bind_of_ok (record_place _), bind_of_ok (recover_place _ _), pure_apply]
      rfl

theorem declarationOrStatement_of_declaration {middle : TokenStream} {typeToken : Token}
    {reading : ParseTree} (isType : typeToken.kind.isTypeName = true)
    (run : variableDeclaration policy (place ⟨front, typeToken :: rest, stop⟩ nesting findings) =
      ended middle nesting (reading.effect policy findings)) :
    declarationOrStatement policy inner (place ⟨front, typeToken :: rest, stop⟩ nesting findings) =
      .ok (reading.effect policy findings).1.toOption
        (place (middle.recovered ⟨front, typeToken :: rest, stop⟩ reading.rejection?) nesting
          (ParseTree.settle (reading.effect policy findings))) := by
  refine declarationOrStatement_of_ended ?_
  have begins : TokenStream.atTypeName ⟨front, typeToken :: rest, stop⟩ = true := isType
  rw [begins]
  exact run

/-! ## Statements -/

theorem statementWithin_of_rule {levels : Nat} {first : Token} {reading : ParseTree}
    (run : ruleFor policy (statementWithin policy levels) first.kind
        (place ⟨front, first :: rest, stop⟩ (nesting + 1) findings) =
      ended final (nesting + 1) (reading.effect policy findings)) :
    statementWithin policy (levels + 1) (place ⟨front, first :: rest, stop⟩ nesting findings) =
      ended final nesting (reading.effect policy findings) := by
  rw [statementWithin]
  exact nested_of_ended ((statementBody_cons first).trans run)

/-- A keyword whose demands are not met leads to a rejection. -/
theorem ruleFor_fails {keyword : Token} {word : Keyword} (isKeyword : keyword.kind = .keyword word)
    (fails : Fails word.demands ⟨keyword :: front, rest, stop⟩ rejection final) :
    ruleFor policy inner keyword.kind (place ⟨front, keyword :: rest, stop⟩ nesting findings) =
      .error (.rejected rejection) (place final nesting findings) := by
  rw [isKeyword]
  cases word with
  | readWord => exact readStatement_fails fails
  | writeWord => exact writeStatement_fails fails
  | ifWord => exact conditionalStatement_fails fails
  | whileWord => exact loopStatement_fails fails
  | _ => nomatch fails

end Parse

/-! ## Runs of readings -/

open Parse

section Runs

variable (policy : RedeclarationPolicy)

theorem ReadsBlock.exists_brace {levels : Nat} {front input : List Token} {stop : Token}
    {final : TokenStream} {reading : ParseTree}
    (reads : ReadsBlock levels ⟨front, input, stop⟩ reading final) :
    ∃ brace behind, input = brace :: behind ∧ brace.kind = .operator .leftBrace := by
  cases reads with
  | closed isOpening => exact ⟨_, _, rfl, isOpening⟩
  | unclosed isOpening => exact ⟨_, _, rfl, isOpening⟩

/-- A test that is satisfied at the end of the input. -/
def StopsAtEnd (stops : TokenStream → Bool) : Prop :=
  ∀ stream : TokenStream, stream.rest = [] → stops stream = true

theorem stopsAtEnd_blockStops : StopsAtEnd blockStops := by
  intro stream ended
  simp [blockStops, TokenStream.atEnd, ended]

theorem stopsAtEnd_atEnd : StopsAtEnd TokenStream.atEnd := by
  intro stream ended
  simp [TokenStream.atEnd, ended]

theorem StopsAtEnd.rest_ne_nil {stops : TokenStream → Bool} (atEnd : StopsAtEnd stops)
    {stream : TokenStream} (goesOn : stops stream = false) : stream.rest ≠ [] := by
  intro ended
  rw [atEnd stream ended] at goesOn
  cases goesOn

mutual
/-- **A statement runs as it is read.** -/
theorem Reads.run : ∀ {levels : Nat} {stream final : TokenStream} {reading : ParseTree},
    Reads levels stream reading final → ∀ (nesting : Nat) (findings : Findings),
      statementWithin policy levels (place stream nesting findings) =
        ended final nesting (reading.effect policy findings)
  | _, _, _, _, .tooDeep, _, _ => rfl
  | _, _, _, _, .read isKeyword isOpening isName isClosing isSemicolon, _, _ =>
      statementWithin_of_rule (by
        rw [isKeyword]
        exact readStatement_run isOpening isName isClosing isSemicolon)
  | _, _, _, _, .write isKeyword isOpening isExpression isClosing isSemicolon, _, _ =>
      statementWithin_of_rule (by
        rw [isKeyword]
        exact writeStatement_run isOpening isExpression isClosing isSemicolon)
  | _, _, _, _, @Reads.ifThen _ _ _ _ _ _ _ _ _ consequence _ isKeyword isOpening isExpression
      isClosing isThen reads noElse, nesting, findings =>
      statementWithin_of_rule (by
        rw [isKeyword]
        refine (conditionalStatement_head isOpening isExpression isClosing isThen).trans ?_
        refine branches_run_ifThen (reads.run (nesting + 1) _) fun first same => noElse ?_
        cases abandoned : consequence.rejection? with
        | none => rfl
        | some rejection =>
            rw [ParseTree.effect_of_rejection policy abandoned] at same
            cases same)
  | _, _, _, _, .ifThenElse isKeyword isOpening isExpression isClosing isThen consequence complete
      isElse alternative, nesting, findings =>
      statementWithin_of_rule (by
        rw [isKeyword]
        refine (conditionalStatement_head isOpening isExpression isClosing isThen).trans ?_
        exact branches_run_ifThenElse (consequence.run (nesting + 1) _)
          (ParseTree.exists_of_complete policy complete _) isElse (alternative.run (nesting + 1) _))
  | _, _, _, _, .loop isKeyword isOpening isExpression isClosing block, nesting, findings =>
      statementWithin_of_rule (by
        rw [isKeyword]
        obtain ⟨brace, behind, rfl, isBrace⟩ := block.exists_brace
        exact loopStatement_run isOpening isExpression isClosing isBrace
          (block.run (nesting + 1) findings))
  | _, ⟨front, input, stop⟩, _, _, .block block, nesting, findings => by
      obtain ⟨brace, behind, rfl, isBrace⟩ := block.exists_brace
      refine statementWithin_of_rule ?_
      rw [isBrace]
      exact block.run (nesting + 1) findings
  | _, _, _, _, @Reads.expression _ front tokens rest semicolon stop isExpression isSemicolon
      other, nesting, findings => by
      refine nested_of_ended ((statementBody_of_not_selects ?_).trans
        (expressionStatement_run isExpression isSemicolon))
      cases tokens with
      | nil => simpa using other
      | cons first others => simpa using other
  | _, _, _, _, .keywordFails isKeyword fails, nesting, findings =>
      statementWithin_of_rule (ruleFor_fails isKeyword fails)
  | levels + 1, stream, final, .rejected rejection, .expressionFails other fails, nesting,
      findings => by
      have run : statementBody policy (statementWithin policy levels)
          (place stream (nesting + 1) findings) =
            ended final (nesting + 1) (.error rejection, findings) :=
        (statementBody_of_not_selects other).trans (expressionStatement_fails fails)
      exact nested_of_ended run

theorem ReadsBlock.run : ∀ {levels : Nat} {stream final : TokenStream} {reading : ParseTree},
    ReadsBlock levels stream reading final → ∀ (nesting : Nat) (findings : Findings),
      blockStatement policy (statementWithin policy levels) (place stream nesting findings) =
        ended final nesting (reading.effect policy findings)
  | _, _, _, _, .closed isOpening items isClosing, nesting, findings => by
      have repeats := items.run stopsAtEnd_blockStops nesting (fun _ _ => rfl) findings.enter
      refine blockStatement_run isOpening (blockBody_closed isClosing repeats) ?_
      rw [ParseTree.effectAll_enclosing]
      exact List.cons_ne_nil _ _
  | _, _, _, _, .unclosed isOpening items, nesting, findings => by
      have repeats := items.run stopsAtEnd_blockStops nesting (fun _ _ => rfl) findings.enter
      refine blockStatement_run isOpening (blockBody_unclosed repeats) ?_
      rw [ParseTree.effectAll_enclosing]
      exact List.cons_ne_nil _ _

/-- A declaration or a statement runs as it is read, and is followed by recovery. -/
theorem ReadsItem.run : ∀ {levels : Nat} {stream middle : TokenStream} {reading : ParseTree},
    ReadsItem levels stream reading middle → ∀ (nesting : Nat) (findings : Findings),
      declarationOrStatement policy (statementWithin policy levels)
          (place stream nesting findings) =
        .ok (reading.effect policy findings).1.toOption
          (place (middle.recovered stream reading.rejection?) nesting
            (ParseTree.settle (reading.effect policy findings)))
  | _, _, _, _, .declaration isType names isName isSemicolon, _, _ =>
      declarationOrStatement_of_declaration isType ((variableDeclaration_head names isName).trans
        ((bind_of_ok (initializer_of_ne (by simp [isSemicolon]))).trans
          (declarationEnd_run isSemicolon)))
  | _, _, _, _, .initialized isType names isName isSign isExpression isSemicolon, _, _ =>
      declarationOrStatement_of_declaration isType ((variableDeclaration_head names isName).trans
        ((bind_of_ok (initializer_of_isExpression isSign isExpression
          (by rw [isSemicolon]; rfl))).trans (declarationEnd_run isSemicolon)))
  | _, _, _, .rejected rejection, .nameless isType names fails, _, findings =>
      declarationOrStatement_of_declaration isType (variableDeclaration_nameless names fails)
  | _, _, _, _, .unended isType names isName noSign fails, _, _ =>
      declarationOrStatement_of_declaration isType ((variableDeclaration_head names isName).trans
        ((bind_of_ok (initializer_of_ne noSign)).trans (declarationEnd_fails fails)))
  | _, _, _, _, .unendedInitial isType names isName isSign fails, _, _ => by
      refine declarationOrStatement_of_declaration isType
        ((variableDeclaration_head names isName).trans
          ((bind_of_ok (initializer_of_eq isSign)).trans ?_))
      cases fails with
      | expression fails => exact declarationEnd_fails fails
  | _, ⟨front, input, stop⟩, _, _, .statement notType statement, nesting, findings =>
      declarationOrStatement_of_ended (by
        have other : TokenStream.atTypeName ⟨front, input, stop⟩ = false := by
          cases input with
          | nil => rfl
          | cons first rest => exact notType first rfl
        rw [other]
        exact statement.run nesting findings)

/-- Items run as they are read, by a step that runs as one item does. -/
theorem ReadsItems.run : ∀ {stops : TokenStream → Bool} {levels : Nat}
    {stream final : TokenStream} {readings : List ParseTree},
    ReadsItems stops levels stream readings final → StopsAtEnd stops →
    ∀ (nesting : Nat) {step : Parse (Option Statement)},
      (∀ state : ParseState, state.nesting = nesting →
        step state = declarationOrStatement policy (statementWithin policy levels) state) →
      ∀ findings : Findings,
        Repeats stops step (place stream nesting findings)
          (ParseTree.effectAll policy readings findings).1
          (place final nesting (ParseTree.effectAll policy readings findings).2)
  | _, _, _, _, _, .done stopped, _, _, _, _, _ => .done stopped
  | _, _, _, _, _, .next goesOn item others, atEnd, nesting, _, agrees, findings =>
      .next goesOn ((agrees _ rfl).trans (item.run nesting findings))
        (item.recovered_lt (atEnd.rest_ne_nil goesOn))
        (others.run atEnd nesting agrees _)
end

end Runs

end NumericLanguage
