import NumericLanguage.Proofs.Grammar.Derivation
import NumericLanguage.Proofs.Reading.Effect

/-!
# How tokens are read

The relation between a place in a stream, a reading, and the place behind it. It follows the rules
of the grammar as long as each token is what the rule asks for, and at the first one that is not it
abandons the statement there. A statement for which no level is left is skipped as a whole. Behind
an abandoned item the reading goes on at the place that recovery leads to.

No step looks at declarations, diagnostics or options, and each one only moves on in the stream
(`Reads.moves`).
-/

set_option autoImplicit false

namespace NumericLanguage

/-! ## Moving on -/

namespace TokenStream

/-- A later place in the same stream. -/
def Moves (stream final : TokenStream) : Prop :=
  ∃ run rest, stream.rest = run ++ rest ∧
    final = ⟨run.reverse ++ stream.consumed, rest, stream.stop⟩

namespace Moves

variable {stream middle final : TokenStream}

theorem refl (stream : TokenStream) : Moves stream stream := ⟨[], stream.rest, rfl, rfl⟩

theorem trans (first : Moves stream middle) (second : Moves middle final) :
    Moves stream final := by
  obtain ⟨run, rest, split, rfl⟩ := first
  obtain ⟨more, behind, again, rfl⟩ := second
  refine ⟨run ++ more, behind, ?_, ?_⟩
  · rw [split, List.append_assoc, ← again]
  · simp only [List.reverse_append, List.append_assoc]

theorem one (front rest : List Token) (token stop : Token) :
    Moves ⟨front, token :: rest, stop⟩ ⟨token :: front, rest, stop⟩ :=
  ⟨[token], rest, rfl, rfl⟩

theorem moveOver (stream : TokenStream) (count : Nat) : Moves stream (stream.moveOver count) :=
  ⟨stream.rest.take count, stream.rest.drop count, (List.take_append_drop _ _).symm, rfl⟩

theorem suffix (moves : Moves stream final) : final.rest <:+ stream.rest := by
  obtain ⟨run, rest, split, rfl⟩ := moves
  exact ⟨run, split.symm⟩

theorem length_le (moves : Moves stream final) : final.rest.length ≤ stream.rest.length :=
  moves.suffix.length_le

/-- As many tokens come in front as are no longer behind. -/
theorem position_eq (moves : Moves stream final) :
    final.position + final.rest.length = stream.position + stream.rest.length := by
  obtain ⟨run, rest, split, rfl⟩ := moves
  simp only [position, split, List.length_append, List.length_reverse]
  omega

theorem position_le (moves : Moves stream final) : stream.position ≤ final.position := by
  have total := moves.position_eq
  have fewer := moves.length_le
  omega

end Moves

/-! ## Going on behind an item -/

/-- The place to which a fault leads: the next boundary, if it asks for one. -/
def resumedAfter (stream : TokenStream) (fault : SyntaxFault) : TokenStream :=
  if fault.needsRecovery then stream.resumed else stream

/-- The place at which the next item is read behind one that began at a place: where that one
ended, or where recovery leads to if it was abandoned. -/
def recovered (stream start : TokenStream) : Option Rejection → TokenStream
  | none => stream
  | some rejection =>
      if (stream.resumedAfter rejection.fault).position = start.position then
        (stream.resumedAfter rejection.fault).moveOver 1
      else stream.resumedAfter rejection.fault

theorem recovered_some (stream start : TokenStream) (rejection : Rejection) :
    stream.recovered start (some rejection) =
      if (stream.resumedAfter rejection.fault).position = start.position then
        (stream.resumedAfter rejection.fault).moveOver 1
      else stream.resumedAfter rejection.fault := rfl

theorem moves_resumedAfter (stream : TokenStream) (fault : SyntaxFault) :
    Moves stream (stream.resumedAfter fault) := by
  unfold resumedAfter
  split
  · exact .moveOver _ _
  · exact .refl _

theorem moves_recovered (stream start : TokenStream) (abandoned : Option Rejection) :
    Moves stream (stream.recovered start abandoned) := by
  cases abandoned with
  | none => exact .refl _
  | some rejection =>
      have resumes := stream.moves_resumedAfter rejection.fault
      rw [recovered_some]
      split
      · exact resumes.trans (.moveOver _ 1)
      · exact resumes

/-- Behind an abandoned item there are fewer tokens than in front of it. -/
theorem recovered_lt {stream start : TokenStream} (moves : Moves start stream)
    (rejection : Rejection) (more : start.rest ≠ []) :
    (stream.recovered start (some rejection)).rest.length < start.rest.length := by
  have resumes := moves.trans (stream.moves_resumedAfter rejection.fault)
  have size := resumes.position_eq
  have some_left := List.length_pos_iff.mpr more
  have fewer := resumes.length_le
  rw [recovered_some]
  split
  · simp only [moveOver, List.length_drop]
    omega
  · omega

/-- The stream behind the expression at its place. -/
def behindExpression (stream : TokenStream) : TokenStream :=
  stream.moveOver (captured 0 stream.rest).length

end TokenStream

/-! ## Demands -/

/-- What a rule asks for at one place: a token of some kind, or an expression. -/
inductive Demand
  | token (kind : TokenKind) (context : String)
  | expression

/-- What has to stand behind a keyword that begins a statement, up to the statement inside. -/
def Keyword.demands : Keyword → List Demand
  | .readWord =>
      [.token (.operator .leftParen) "after 'read'", .token .identifier "inside read()",
        .token (.operator .rightParen) "to close read()",
        .token (.operator .semicolon) "after read()"]
  | .writeWord =>
      [.token (.operator .leftParen) "after 'write'", .expression,
        .token (.operator .rightParen) "to close write()",
        .token (.operator .semicolon) "after write()"]
  | .ifWord =>
      [.token (.operator .leftParen) "after 'if'", .expression,
        .token (.operator .rightParen) "to close the if condition",
        .token (.keyword .thenWord) "after the if condition"]
  | .whileWord =>
      [.token (.operator .leftParen) "after 'while'", .expression,
        .token (.operator .rightParen) "to close the while condition",
        .token (.operator .leftBrace) "to start the while body"]
  | _ => []

/-- What a statement that begins with no keyword and no brace consists of. -/
def expressionDemands : List Demand :=
  [.expression, .token (.operator .semicolon) "after the expression"]

/-- One of several demands is not met: the rejection, and the place where it was noticed. -/
inductive Fails : List Demand → TokenStream → Rejection → TokenStream → Prop
  | here {kind : TokenKind} {context : String} {demands : List Demand} {stream : TokenStream} :
      (∀ next ∈ stream.rest.head?, next.kind ≠ kind) →
      Fails (.token kind context :: demands) stream ⟨.expected kind context, stream.peek⟩ stream
  | token {kind : TokenKind} {context : String} {demands : List Demand} {front rest : List Token}
      {token stop : Token} {rejection : Rejection} {final : TokenStream} :
      token.kind = kind → Fails demands ⟨token :: front, rest, stop⟩ rejection final →
      Fails (.token kind context :: demands) ⟨front, token :: rest, stop⟩ rejection final
  | expression {demands : List Demand} {stream final : TokenStream} {rejection : Rejection} :
      Fails demands stream.behindExpression rejection final →
      Fails (.expression :: demands) stream rejection final

/-- All demands are met, up to a place. -/
inductive Meets : List Demand → TokenStream → TokenStream → Prop
  | nil {stream : TokenStream} : Meets [] stream stream
  | token {kind : TokenKind} {context : String} {demands : List Demand} {front rest : List Token}
      {token stop : Token} {final : TokenStream} :
      token.kind = kind → Meets demands ⟨token :: front, rest, stop⟩ final →
      Meets (.token kind context :: demands) ⟨front, token :: rest, stop⟩ final
  | expression {demands : List Demand} {stream final : TokenStream} :
      Meets demands stream.behindExpression final → Meets (.expression :: demands) stream final

/-- Demands are met, or one of them is not. -/
theorem meets_or_fails (demands : List Demand) (stream : TokenStream) :
    (∃ final, Meets demands stream final) ∨
      ∃ rejection final, Fails demands stream rejection final := by
  induction demands generalizing stream with
  | nil => exact .inl ⟨stream, .nil⟩
  | cons demand demands ih =>
      cases demand with
      | expression =>
          rcases ih stream.behindExpression with ⟨final, meets⟩ | ⟨rejection, final, fails⟩
          · exact .inl ⟨final, .expression meets⟩
          · exact .inr ⟨rejection, final, .expression fails⟩
      | token kind context =>
          obtain ⟨front, rest, stop⟩ := stream
          cases rest with
          | nil => exact .inr ⟨_, _, .here (by simp)⟩
          | cons token rest =>
              by_cases same : token.kind = kind
              · rcases ih ⟨token :: front, rest, stop⟩ with
                  ⟨final, meets⟩ | ⟨rejection, final, fails⟩
                · exact .inl ⟨final, .token same meets⟩
                · exact .inr ⟨rejection, final, .token same fails⟩
              · exact .inr ⟨_, _, .here (by simpa using same)⟩

/-- Demands in front of others are met first. -/
theorem Meets.exists_between {demands others : List Demand} {stream final : TokenStream}
    (meets : Meets (demands ++ others) stream final) :
    ∃ middle, Meets demands stream middle ∧ Meets others middle final := by
  induction demands generalizing stream with
  | nil => exact ⟨stream, .nil, meets⟩
  | cons demand demands ih =>
      cases meets with
      | token same meets =>
          obtain ⟨middle, first, second⟩ := ih meets
          exact ⟨middle, .token same first, second⟩
      | expression meets =>
          obtain ⟨middle, first, second⟩ := ih meets
          exact ⟨middle, .expression first, second⟩

namespace Fails

variable {demands : List Demand} {stream final : TokenStream} {rejection : Rejection}

/-- One of some demands is not met, or one of those behind them. -/
theorem inFront_or_behind {others : List Demand}
    (fails : Fails (demands ++ others) stream rejection final) :
    Fails demands stream rejection final ∨
      ∃ middle, Meets demands stream middle ∧ Fails others middle rejection final := by
  induction demands generalizing stream with
  | nil => exact .inr ⟨stream, .nil, fails⟩
  | cons demand demands ih =>
      cases fails with
      | here other => exact .inl (.here other)
      | token same fails =>
          rcases ih fails with inFront | ⟨middle, meets, behind⟩
          · exact .inl (.token same inFront)
          · exact .inr ⟨middle, .token same meets, behind⟩
      | expression fails =>
          rcases ih fails with inFront | ⟨middle, meets, behind⟩
          · exact .inl (.expression inFront)
          · exact .inr ⟨middle, .expression meets, behind⟩

theorem moves (fails : Fails demands stream rejection final) : stream.Moves final := by
  induction fails with
  | here _ => exact .refl _
  | token _ _ ih => exact (TokenStream.Moves.one _ _ _ _).trans ih
  | expression _ ih => exact (TokenStream.Moves.moveOver _ _).trans ih

/-- A demand that is not met asks for a token of another kind than the next one. -/
theorem exists_expected (fails : Fails demands stream rejection final) :
    ∃ kind context, rejection = ⟨.expected kind context, final.peek⟩ ∧
      ∀ next ∈ final.rest.head?, next.kind ≠ kind := by
  induction fails with
  | here other => exact ⟨_, _, rfl, other⟩
  | token _ _ ih => exact ih
  | expression _ ih => exact ih

end Fails

/-! ## The relation -/

/-- Where a block ends: at a closing brace, and at the end of the input. -/
def blockStops (stream : TokenStream) : Bool :=
  stream.startsWith (.operator .rightBrace) || stream.atEnd

mutual
/-- With a number of levels to spare, a statement is read from a place to a place. -/
inductive Reads : Nat → TokenStream → ParseTree → TokenStream → Prop
  | tooDeep {stream : TokenStream} :
      Reads 0 stream (.rejected ⟨.tooDeep maxNesting, stream.peek⟩)
        (stream.moveOver (skipped 0 stream.rest).length)
  | read {levels : Nat} {front rest : List Token}
      {keyword opening name closing semicolon stop : Token} :
      keyword.kind = .keyword .readWord → opening.kind = .operator .leftParen →
      name.kind = .identifier → closing.kind = .operator .rightParen →
      semicolon.kind = .operator .semicolon →
      Reads (levels + 1)
        ⟨front, keyword :: opening :: name :: closing :: semicolon :: rest, stop⟩
        (.read keyword name)
        ⟨semicolon :: closing :: name :: opening :: keyword :: front, rest, stop⟩
  | write {levels : Nat} {front expression rest : List Token}
      {keyword opening closing semicolon stop : Token} :
      keyword.kind = .keyword .writeWord → opening.kind = .operator .leftParen →
      IsExpression expression → closing.kind = .operator .rightParen →
      semicolon.kind = .operator .semicolon →
      Reads (levels + 1)
        ⟨front, keyword :: opening :: (expression ++ closing :: semicolon :: rest), stop⟩
        (.write keyword expression)
        ⟨semicolon :: closing :: (expression.reverse ++ opening :: keyword :: front), rest, stop⟩
  | ifThen {levels : Nat} {front condition body : List Token}
      {keyword opening closing thenToken stop : Token} {consequence : ParseTree}
      {final : TokenStream} :
      keyword.kind = .keyword .ifWord → opening.kind = .operator .leftParen →
      IsExpression condition → closing.kind = .operator .rightParen →
      thenToken.kind = .keyword .thenWord →
      Reads levels
        ⟨thenToken :: closing :: (condition.reverse ++ opening :: keyword :: front), body, stop⟩
        consequence final →
      (consequence.rejection? = none →
        ∀ next ∈ final.rest.head?, next.kind ≠ .keyword .elseWord) →
      Reads (levels + 1)
        ⟨front, keyword :: opening :: (condition ++ closing :: thenToken :: body), stop⟩
        (.ifThen keyword condition consequence) final
  | ifThenElse {levels : Nat} {front condition body front' behind : List Token}
      {keyword opening closing thenToken elseToken stop stop' : Token}
      {consequence alternative : ParseTree} {final : TokenStream} :
      keyword.kind = .keyword .ifWord → opening.kind = .operator .leftParen →
      IsExpression condition → closing.kind = .operator .rightParen →
      thenToken.kind = .keyword .thenWord →
      Reads levels
        ⟨thenToken :: closing :: (condition.reverse ++ opening :: keyword :: front), body, stop⟩
        consequence ⟨front', elseToken :: behind, stop'⟩ →
      consequence.rejection? = none → elseToken.kind = .keyword .elseWord →
      Reads levels ⟨elseToken :: front', behind, stop'⟩ alternative final →
      Reads (levels + 1)
        ⟨front, keyword :: opening :: (condition ++ closing :: thenToken :: body), stop⟩
        (.ifThenElse keyword condition consequence alternative) final
  | loop {levels : Nat} {front condition body : List Token}
      {keyword opening closing stop : Token} {block : ParseTree} {final : TokenStream} :
      keyword.kind = .keyword .whileWord → opening.kind = .operator .leftParen →
      IsExpression condition → closing.kind = .operator .rightParen →
      ReadsBlock levels
        ⟨closing :: (condition.reverse ++ opening :: keyword :: front), body, stop⟩ block final →
      Reads (levels + 1) ⟨front, keyword :: opening :: (condition ++ closing :: body), stop⟩
        (.loop keyword condition block) final
  | block {levels : Nat} {stream final : TokenStream} {block : ParseTree} :
      ReadsBlock levels stream block final → Reads (levels + 1) stream block final
  | expression {levels : Nat} {front tokens rest : List Token} {semicolon stop : Token} :
      IsExpression tokens → semicolon.kind = .operator .semicolon →
      (tokens.head?.getD semicolon).kind.selectsStatement = false →
      Reads (levels + 1) ⟨front, tokens ++ semicolon :: rest, stop⟩
        (.expression tokens semicolon) ⟨semicolon :: (tokens.reverse ++ front), rest, stop⟩
  | keywordFails {levels : Nat} {front rest : List Token} {keyword stop : Token} {word : Keyword}
      {rejection : Rejection} {final : TokenStream} :
      keyword.kind = .keyword word →
      Fails word.demands ⟨keyword :: front, rest, stop⟩ rejection final →
      Reads (levels + 1) ⟨front, keyword :: rest, stop⟩ (.rejected rejection) final
  | expressionFails {levels : Nat} {stream final : TokenStream} {rejection : Rejection} :
      (∀ first ∈ stream.rest.head?, first.kind.selectsStatement = false) →
      Fails expressionDemands stream rejection final →
      Reads (levels + 1) stream (.rejected rejection) final

/-- With a number of levels to spare for the statements inside, a block is read from a place to
a place. -/
inductive ReadsBlock : Nat → TokenStream → ParseTree → TokenStream → Prop
  | closed {levels : Nat} {front body front' rest : List Token} {opening closing stop stop' : Token}
      {items : List ParseTree} :
      opening.kind = .operator .leftBrace →
      ReadsItems blockStops levels ⟨opening :: front, body, stop⟩ items
        ⟨front', closing :: rest, stop'⟩ →
      closing.kind = .operator .rightBrace →
      ReadsBlock levels ⟨front, opening :: body, stop⟩ (.block opening items none)
        ⟨closing :: front', rest, stop'⟩
  | unclosed {levels : Nat} {front body front' : List Token} {opening stop stop' : Token}
      {items : List ParseTree} :
      opening.kind = .operator .leftBrace →
      ReadsItems blockStops levels ⟨opening :: front, body, stop⟩ items ⟨front', [], stop'⟩ →
      ReadsBlock levels ⟨front, opening :: body, stop⟩ (.block opening items (some stop'))
        ⟨front', [], stop'⟩

/-- A declaration or a statement is read from a place to a place. -/
inductive ReadsItem : Nat → TokenStream → ParseTree → TokenStream → Prop
  | declaration {levels : Nat} {front rest : List Token} {typeToken name semicolon stop : Token}
      {type : ValueType} :
      typeToken.kind.isTypeName = true → ValueType.ofWord typeToken.lexeme = .ok type →
      name.kind = .identifier → semicolon.kind = .operator .semicolon →
      ReadsItem levels ⟨front, typeToken :: name :: semicolon :: rest, stop⟩
        (.declaration typeToken name type none none)
        ⟨semicolon :: name :: typeToken :: front, rest, stop⟩
  | initialized {levels : Nat} {front initial rest : List Token}
      {typeToken name sign semicolon stop : Token} {type : ValueType} :
      typeToken.kind.isTypeName = true → ValueType.ofWord typeToken.lexeme = .ok type →
      name.kind = .identifier → sign.kind = .operator .assign → IsExpression initial →
      semicolon.kind = .operator .semicolon →
      ReadsItem levels ⟨front, typeToken :: name :: sign :: (initial ++ semicolon :: rest), stop⟩
        (.declaration typeToken name type (some initial) none)
        ⟨semicolon :: (initial.reverse ++ sign :: name :: typeToken :: front), rest, stop⟩
  | nameless {levels : Nat} {front rest : List Token} {typeToken stop : Token} {type : ValueType}
      {rejection : Rejection} {final : TokenStream} :
      typeToken.kind.isTypeName = true → ValueType.ofWord typeToken.lexeme = .ok type →
      Fails [.token .identifier "after the type"] ⟨typeToken :: front, rest, stop⟩ rejection
        final →
      ReadsItem levels ⟨front, typeToken :: rest, stop⟩ (.rejected rejection) final
  | unended {levels : Nat} {front rest : List Token} {typeToken name stop : Token}
      {type : ValueType} {rejection : Rejection} {final : TokenStream} :
      typeToken.kind.isTypeName = true → ValueType.ofWord typeToken.lexeme = .ok type →
      name.kind = .identifier → (∀ next ∈ rest.head?, next.kind ≠ .operator .assign) →
      Fails [.token (.operator .semicolon) "after the declaration"]
        ⟨name :: typeToken :: front, rest, stop⟩ rejection final →
      ReadsItem levels ⟨front, typeToken :: name :: rest, stop⟩
        (.declaration typeToken name type none (some rejection)) final
  | unendedInitial {levels : Nat} {front rest : List Token} {typeToken name sign stop : Token}
      {type : ValueType} {rejection : Rejection} {final : TokenStream} :
      typeToken.kind.isTypeName = true → ValueType.ofWord typeToken.lexeme = .ok type →
      name.kind = .identifier → sign.kind = .operator .assign →
      Fails [.expression, .token (.operator .semicolon) "after the declaration"]
        ⟨sign :: name :: typeToken :: front, rest, stop⟩ rejection final →
      ReadsItem levels ⟨front, typeToken :: name :: sign :: rest, stop⟩
        (.declaration typeToken name type (some (captured 0 rest)) (some rejection)) final
  | statement {levels : Nat} {stream final : TokenStream} {reading : ParseTree} :
      (∀ first ∈ stream.rest.head?, first.kind.isTypeName = false) →
      Reads levels stream reading final → ReadsItem levels stream reading final

/-- Declarations and statements are read one after the other, until the stream satisfies a
test. -/
inductive ReadsItems :
    (TokenStream → Bool) → Nat → TokenStream → List ParseTree → TokenStream → Prop
  | done {stops : TokenStream → Bool} {levels : Nat} {stream : TokenStream} :
      stops stream = true → ReadsItems stops levels stream [] stream
  | next {stops : TokenStream → Bool} {levels : Nat} {stream middle final : TokenStream}
      {reading : ParseTree} {others : List ParseTree} :
      stops stream = false → ReadsItem levels stream reading middle →
      ReadsItems stops levels (middle.recovered stream reading.rejection?) others final →
      ReadsItems stops levels stream (reading :: others) final
end

/-! ## Readings move on -/

section Moving

open TokenStream

mutual
/-- A reading ends at a later place of the same stream. -/
theorem Reads.moves : ∀ {levels : Nat} {stream final : TokenStream} {reading : ParseTree},
    Reads levels stream reading final → stream.Moves final
  | _, _, _, _, .tooDeep => .moveOver _ _
  | _, _, _, _, .read .. => ⟨[_, _, _, _, _], _, rfl, rfl⟩
  | _, _, _, _, @Reads.write _ _ expression rest keyword opening closing semicolon _ .. =>
      ⟨keyword :: opening :: (expression ++ [closing, semicolon]), rest, by simp, by simp⟩
  | _, _, _, _, @Reads.ifThen _ _ condition body keyword opening closing thenToken _ _ _
      _ _ _ _ _ consequence _ => by
      refine Moves.trans ⟨keyword :: opening :: (condition ++ [closing, thenToken]), body, ?_, ?_⟩
        consequence.moves <;> simp
  | _, _, _, _, @Reads.ifThenElse _ _ condition body _ _ keyword opening closing thenToken _ _ _ _
      _ _ _ _ _ _ _ consequence _ _ alternative => by
      refine Moves.trans ?_ (consequence.moves.trans ((Moves.one _ _ _ _).trans alternative.moves))
      exact ⟨keyword :: opening :: (condition ++ [closing, thenToken]), body, by simp, by simp⟩
  | _, _, _, _, @Reads.loop _ _ condition body keyword opening closing _ _ _ _ _ _ _ block => by
      refine Moves.trans ⟨keyword :: opening :: (condition ++ [closing]), body, ?_, ?_⟩
        block.moves <;> simp
  | _, _, _, _, .block block => block.moves
  | _, _, _, _, @Reads.expression _ _ tokens rest semicolon _ .. =>
      ⟨tokens ++ [semicolon], rest, by simp, by simp⟩
  | _, _, _, _, .keywordFails _ fails => (Moves.one _ _ _ _).trans fails.moves
  | _, _, _, _, .expressionFails _ fails => fails.moves

theorem ReadsBlock.moves : ∀ {levels : Nat} {stream final : TokenStream} {reading : ParseTree},
    ReadsBlock levels stream reading final → stream.Moves final
  | _, _, _, _, .closed _ items _ =>
      (Moves.one _ _ _ _).trans (items.moves.trans (Moves.one _ _ _ _))
  | _, _, _, _, .unclosed _ items => (Moves.one _ _ _ _).trans items.moves

theorem ReadsItem.moves : ∀ {levels : Nat} {stream final : TokenStream} {reading : ParseTree},
    ReadsItem levels stream reading final → stream.Moves final
  | _, _, _, _, .declaration .. => ⟨[_, _, _], _, rfl, rfl⟩
  | _, _, _, _, @ReadsItem.initialized _ _ initial rest typeToken name sign semicolon _ _ .. =>
      ⟨typeToken :: name :: sign :: (initial ++ [semicolon]), rest, by simp, by simp⟩
  | _, _, _, _, .nameless _ _ fails => (Moves.one _ _ _ _).trans fails.moves
  | _, _, _, _, .unended _ _ _ _ fails => Moves.trans ⟨[_, _], _, rfl, rfl⟩ fails.moves
  | _, _, _, _, .unendedInitial _ _ _ _ fails =>
      Moves.trans ⟨[_, _, _], _, rfl, rfl⟩ fails.moves
  | _, _, _, _, .statement _ statement => statement.moves

theorem ReadsItems.moves : ∀ {stops : TokenStream → Bool} {levels : Nat}
    {stream final : TokenStream} {readings : List ParseTree},
    ReadsItems stops levels stream readings final → stream.Moves final
  | _, _, _, _, _, .done _ => .refl _
  | _, _, _, _, _, .next _ item others =>
      item.moves.trans ((moves_recovered _ _ _).trans others.moves)
end

/-- Items are read up to a place where the test is satisfied. -/
theorem ReadsItems.stopped : ∀ {stops : TokenStream → Bool} {levels : Nat}
    {stream final : TokenStream} {readings : List ParseTree},
    ReadsItems stops levels stream readings final → stops final = true
  | _, _, _, _, _, .done stopped => stopped
  | _, _, _, _, _, .next _ _ others => others.stopped

/-- A statement that is not abandoned takes up a token. -/
theorem Reads.length_lt {levels : Nat} {stream final : TokenStream} {reading : ParseTree}
    (reads : Reads levels stream reading final) (complete : reading.rejection? = none) :
    final.rest.length < stream.rest.length := by
  cases reads with
  | tooDeep => cases complete
  | read => simp only [List.length_cons]; omega
  | write => simp only [List.length_cons, List.length_append]; omega
  | ifThen _ _ _ _ _ consequence =>
      have fewer := consequence.moves.length_le
      simp only [List.length_cons, List.length_append] at *
      omega
  | ifThenElse _ _ _ _ _ consequence _ _ alternative =>
      have first := consequence.moves.length_le
      have second := alternative.moves.length_le
      simp only [List.length_cons, List.length_append] at *
      omega
  | loop _ _ _ _ block =>
      have fewer := block.moves.length_le
      simp only [List.length_cons, List.length_append] at *
      omega
  | block block =>
      cases block with
      | closed _ items _ =>
          have fewer := items.moves.length_le
          simp only [List.length_cons] at *
          omega
      | unclosed _ items => simp
  | expression => simp only [List.length_cons, List.length_append]; omega
  | keywordFails => cases complete
  | expressionFails => cases complete

theorem ReadsItem.length_lt {levels : Nat} {stream final : TokenStream} {reading : ParseTree}
    (reads : ReadsItem levels stream reading final) (complete : reading.rejection? = none) :
    final.rest.length < stream.rest.length := by
  cases reads with
  | declaration => simp only [List.length_cons]; omega
  | initialized => simp only [List.length_cons, List.length_append]; omega
  | nameless => cases complete
  | unended => cases complete
  | unendedInitial => cases complete
  | statement _ statement => exact statement.length_lt complete

/-- The next item is read at a later place. -/
theorem ReadsItem.recovered_lt {levels : Nat} {stream middle : TokenStream} {reading : ParseTree}
    (reads : ReadsItem levels stream reading middle) (more : stream.rest ≠ []) :
    (middle.recovered stream reading.rejection?).rest.length < stream.rest.length := by
  cases abandoned : reading.rejection? with
  | none => exact reads.length_lt abandoned
  | some rejection => exact TokenStream.recovered_lt reads.moves rejection more

end Moving

end NumericLanguage
