import NumericLanguage.Proofs.Grammar.Acceptance
import NumericLanguage.Proofs.Grammar.Extent

/-!
# Missing semicolons

A semicolon is left out in front of a keyword that begins the next declaration or statement. Where
the semicolon has an expression in front of it, the expression goes on over the keyword, and the
fault may go unnoticed (`missing_semicolon_unnoticed`). Everywhere else the keyword is found instead
of the semicolon: it is reported there, the declaration or the statement around it is abandoned, and
as a keyword is a boundary nothing is discarded, so that the next one is read as before
(`missing_semicolon_reported`).
-/

set_option autoImplicit false

namespace NumericLanguage

open Parse ParseState

/-! ## Where nodes end -/

/-- A declaration or a statement that has an expression in front of its semicolon. -/
def SyntaxTree.endsWithExpression : SyntaxTree → Bool
  | declaration _ _ _ (some _) => true
  | expression _ _ => true
  | _ => false

mutual
/-- In the derivation of a statement by a tree, from some tokens to others, a node ends with the
semicolon at a place: the first of the tokens that are given last. -/
inductive StatementEndsAt :
    SyntaxTree → List Token → List Token → SyntaxTree → List Token → Prop
  | read {keyword opening name closing semicolon : Token} {rest : List Token} :
      keyword.kind = .keyword .readWord → opening.kind = .operator .leftParen →
      name.kind = .identifier → closing.kind = .operator .rightParen →
      semicolon.kind = .operator .semicolon →
      StatementEndsAt (.read keyword name)
        (keyword :: opening :: name :: closing :: semicolon :: rest) rest
        (.read keyword name) (semicolon :: rest)
  | write {keyword opening closing semicolon : Token} {expression rest : List Token} :
      keyword.kind = .keyword .writeWord → opening.kind = .operator .leftParen →
      IsExpression expression → closing.kind = .operator .rightParen →
      semicolon.kind = .operator .semicolon →
      StatementEndsAt (.write keyword expression)
        (keyword :: opening :: (expression ++ closing :: semicolon :: rest)) rest
        (.write keyword expression) (semicolon :: rest)
  | expression {semicolon : Token} {tokens rest : List Token} :
      IsExpression tokens → semicolon.kind = .operator .semicolon →
      (tokens.head?.getD semicolon).kind.selectsStatement = false →
      StatementEndsAt (.expression tokens semicolon) (tokens ++ semicolon :: rest) rest
        (.expression tokens semicolon) (semicolon :: rest)
  | ifThen {keyword opening closing thenToken : Token} {condition body rest place : List Token}
      {consequence node : SyntaxTree} :
      keyword.kind = .keyword .ifWord → opening.kind = .operator .leftParen →
      IsExpression condition → closing.kind = .operator .rightParen →
      thenToken.kind = .keyword .thenWord →
      StatementEndsAt consequence body rest node place → NoElse rest →
      StatementEndsAt (.ifThen keyword condition consequence)
        (keyword :: opening :: (condition ++ closing :: thenToken :: body)) rest node place
  | consequence {keyword opening closing thenToken elseToken : Token}
      {condition body behind rest place : List Token}
      {consequence alternative node : SyntaxTree} :
      keyword.kind = .keyword .ifWord → opening.kind = .operator .leftParen →
      IsExpression condition → closing.kind = .operator .rightParen →
      thenToken.kind = .keyword .thenWord →
      StatementEndsAt consequence body (elseToken :: behind) node place →
      elseToken.kind = .keyword .elseWord → DerivesStatement alternative behind rest →
      StatementEndsAt (.ifThenElse keyword condition consequence alternative)
        (keyword :: opening :: (condition ++ closing :: thenToken :: body)) rest node place
  | alternative {keyword opening closing thenToken elseToken : Token}
      {condition body behind rest place : List Token}
      {consequence alternative node : SyntaxTree} :
      keyword.kind = .keyword .ifWord → opening.kind = .operator .leftParen →
      IsExpression condition → closing.kind = .operator .rightParen →
      thenToken.kind = .keyword .thenWord →
      DerivesStatement consequence body (elseToken :: behind) →
      elseToken.kind = .keyword .elseWord →
      StatementEndsAt alternative behind rest node place →
      StatementEndsAt (.ifThenElse keyword condition consequence alternative)
        (keyword :: opening :: (condition ++ closing :: thenToken :: body)) rest node place
  | loop {keyword opening closing : Token} {condition body rest place : List Token}
      {block node : SyntaxTree} :
      keyword.kind = .keyword .whileWord → opening.kind = .operator .leftParen →
      IsExpression condition → closing.kind = .operator .rightParen →
      BlockEndsAt block body rest node place →
      StatementEndsAt (.loop keyword condition block)
        (keyword :: opening :: (condition ++ closing :: body)) rest node place
  | block {block node : SyntaxTree} {input rest place : List Token} :
      BlockEndsAt block input rest node place → StatementEndsAt block input rest node place

/-- The same in the derivation of a block. -/
inductive BlockEndsAt : SyntaxTree → List Token → List Token → SyntaxTree → List Token → Prop
  | braces {opening closing : Token} {items : List SyntaxTree} {body rest place : List Token}
      {node : SyntaxTree} :
      opening.kind = .operator .leftBrace → ItemsEndAt items body (closing :: rest) node place →
      closing.kind = .operator .rightBrace →
      BlockEndsAt (.block opening items) (opening :: body) rest node place

/-- The same in the derivation of a declaration or a statement. -/
inductive ItemEndsAt : SyntaxTree → List Token → List Token → SyntaxTree → List Token → Prop
  | declaration {typeToken name semicolon : Token} {type : ValueType} {rest : List Token} :
      typeToken.kind.isTypeName = true → ValueType.ofWord typeToken.lexeme = .ok type →
      name.kind = .identifier → semicolon.kind = .operator .semicolon →
      ItemEndsAt (.declaration typeToken name type none)
        (typeToken :: name :: semicolon :: rest) rest
        (.declaration typeToken name type none) (semicolon :: rest)
  | initialized {typeToken name sign semicolon : Token} {type : ValueType}
      {initial rest : List Token} :
      typeToken.kind.isTypeName = true → ValueType.ofWord typeToken.lexeme = .ok type →
      name.kind = .identifier → sign.kind = .operator .assign → IsExpression initial →
      semicolon.kind = .operator .semicolon →
      ItemEndsAt (.declaration typeToken name type (some initial))
        (typeToken :: name :: sign :: (initial ++ semicolon :: rest)) rest
        (.declaration typeToken name type (some initial)) (semicolon :: rest)
  | statement {tree node : SyntaxTree} {input rest place : List Token} :
      (∀ first ∈ input.head?, first.kind.isTypeName = false) →
      StatementEndsAt tree input rest node place → ItemEndsAt tree input rest node place

/-- The same in the derivation of declarations and statements, one after the other. -/
inductive ItemsEndAt :
    List SyntaxTree → List Token → List Token → SyntaxTree → List Token → Prop
  | head {tree node : SyntaxTree} {others : List SyntaxTree}
      {input middle rest place : List Token} :
      ItemEndsAt tree input middle node place → DerivesItems others middle rest →
      ItemsEndAt (tree :: others) input rest node place
  | tail {tree node : SyntaxTree} {others : List SyntaxTree}
      {input middle rest place : List Token} :
      DerivesItem tree input middle → ItemsEndAt others middle rest node place →
      ItemsEndAt (tree :: others) input rest node place
end

mutual
/-- What is derived with a node that ends at a place is derived. -/
theorem StatementEndsAt.derives : ∀ {tree node : SyntaxTree} {input rest place : List Token},
    StatementEndsAt tree input rest node place → DerivesStatement tree input rest
  | _, _, _, _, _, .read isKeyword isOpening isName isClosing isSemicolon =>
      .read isKeyword isOpening isName isClosing isSemicolon
  | _, _, _, _, _, .write isKeyword isOpening isExpression isClosing isSemicolon =>
      .write isKeyword isOpening isExpression isClosing isSemicolon
  | _, _, _, _, _, .expression isExpression isSemicolon other =>
      .expression isExpression isSemicolon other
  | _, _, _, _, _, .ifThen isKeyword isOpening isExpression isClosing isThen consequence alone =>
      .ifThen isKeyword isOpening isExpression isClosing isThen consequence.derives alone
  | _, _, _, _, _, .consequence isKeyword isOpening isExpression isClosing isThen consequence isElse
      alternative =>
      .ifThenElse isKeyword isOpening isExpression isClosing isThen consequence.derives isElse
        alternative
  | _, _, _, _, _, .alternative isKeyword isOpening isExpression isClosing isThen consequence isElse
      alternative =>
      .ifThenElse isKeyword isOpening isExpression isClosing isThen consequence isElse
        alternative.derives
  | _, _, _, _, _, .loop isKeyword isOpening isExpression isClosing block =>
      .loop isKeyword isOpening isExpression isClosing block.derives
  | _, _, _, _, _, .block block => .block block.derives

theorem BlockEndsAt.derives : ∀ {tree node : SyntaxTree} {input rest place : List Token},
    BlockEndsAt tree input rest node place → DerivesBlock tree input rest
  | _, _, _, _, _, .braces isOpening items isClosing => .braces isOpening items.derives isClosing

theorem ItemEndsAt.derives : ∀ {tree node : SyntaxTree} {input rest place : List Token},
    ItemEndsAt tree input rest node place → DerivesItem tree input rest
  | _, _, _, _, _, .declaration isType names isName isSemicolon =>
      .declaration isType names isName isSemicolon
  | _, _, _, _, _, .initialized isType names isName isSign isExpression isSemicolon =>
      .initialized isType names isName isSign isExpression isSemicolon
  | _, _, _, _, _, .statement notType statement => .statement notType statement.derives

theorem ItemsEndAt.derives : ∀ {trees : List SyntaxTree} {node : SyntaxTree}
    {input rest place : List Token}, ItemsEndAt trees input rest node place →
    DerivesItems trees input rest
  | _, _, _, _, _, .head item others => .cons item.derives others
  | _, _, _, _, _, .tail item others => .cons item others.derives
end

/-! ## Records of what stands at a place -/

/-- The declaration or the statement that begins at a place is recorded among some records, or
inside them, and also among others. -/
def RecordedAt (place : List Token) (records others : List Statement) : Prop :=
  ∃ tree rest, DerivesItem tree place rest ∧ tree.outline ∈ Statement.walkAll records ∧
    tree.outline ∈ Statement.walkAll others

namespace RecordedAt

variable {place : List Token} {records others : List Statement}

/-- What is recorded among some records is recorded among more. -/
theorem append (recorded : RecordedAt place records others)
    (first second third last : List Statement) :
    RecordedAt place (first ++ records ++ second) (third ++ others ++ last) := by
  obtain ⟨tree, rest, derives, inside, insideOthers⟩ := recorded
  refine ⟨tree, rest, derives, ?_, ?_⟩
  · rw [Statement.walkAll_append, Statement.walkAll_append]
    exact List.mem_append_left _ (List.mem_append_right _ inside)
  · rw [Statement.walkAll_append, Statement.walkAll_append]
    exact List.mem_append_left _ (List.mem_append_right _ insideOthers)

/-- What is recorded inside statements is recorded with them. -/
theorem within {record other : Statement}
    (recorded : RecordedAt place record.children other.children) :
    RecordedAt place [record] [other] := by
  obtain ⟨tree, rest, derives, inside, insideOther⟩ := recorded
  refine ⟨tree, rest, derives, ?_, ?_⟩
  · rw [Statement.walkAll_cons]
    exact List.mem_cons_of_mem _ (List.mem_append_left _ inside)
  · rw [Statement.walkAll_cons]
    exact List.mem_cons_of_mem _ (List.mem_append_left _ insideOther)

end RecordedAt

/-- The first of some derived declarations and statements is recorded where it begins. -/
theorem DerivesItems.recordedAt {trees : List SyntaxTree} {input rest : List Token}
    (derives : DerivesItems trees input rest) (more : input ≠ rest) :
    RecordedAt input (SyntaxTree.outlineAll trees) (SyntaxTree.outlineAll trees) := by
  cases derives with
  | nil => exact absurd rfl more
  | @cons tree others _ middle _ item behind =>
      have inside : tree.outline ∈ Statement.walkAll (SyntaxTree.outlineAll (tree :: others)) := by
        rw [SyntaxTree.outlineAll, Statement.walkAll_cons]
        exact List.mem_cons_self
      exact ⟨tree, middle, item, inside, inside⟩

/-! ## Readings without a semicolon -/

/-- What is read instead of a tree where a semicolon in front of a keyword is missing: the reading
is abandoned at the keyword, or something inside it is and what begins at the keyword is recorded
behind that. -/
inductive Lacks (keyword : Token) (after rest : List Token) (tree : SyntaxTree)
    (reading : ParseTree) : Prop
  | abandoned (context : String) : rest = keyword :: after →
      reading.outline = .error ⟨.expected (.operator .semicolon) context, keyword⟩ →
      reading.recorded = [] → Lacks keyword after rest tree reading
  | inside (context : String) (record : Statement) : reading.outline = .ok record →
      reading.recorded = [⟨.expected (.operator .semicolon) context, keyword⟩] →
      RecordedAt (keyword :: after) [tree.outline] [record] → Lacks keyword after rest tree reading

namespace Lacks

variable {keyword : Token} {after rest : List Token} {tree outer : SyntaxTree}
  {reading outerReading : ParseTree}

/-- Where something else than the keyword stands behind a reading, it was not abandoned. -/
theorem rejection?_eq_none (lacks : Lacks keyword after rest tree reading)
    (atOther : rest ≠ keyword :: after) : reading.rejection? = none := by
  cases lacks with
  | abandoned _ atKeyword _ _ => exact absurd atKeyword atOther
  | inside _ _ outline _ _ => rw [ParseTree.rejection?, outline]

/-- It does not matter then what stands behind it. -/
theorem elsewhere (lacks : Lacks keyword after rest tree reading)
    (atOther : rest ≠ keyword :: after) (behind : List Token) :
    Lacks keyword after behind tree reading := by
  cases lacks with
  | abandoned _ atKeyword _ _ => exact absurd atKeyword atOther
  | inside context record outline recorded kept =>
      exact .inside context record outline recorded kept

/-- A statement with one inside it is read like that one. -/
theorem around (lacks : Lacks keyword after rest tree reading) (heading : Heading)
    (before behind : List Statement)
    (outerOutline : outer.outline = heading.toStatement none (before ++ [tree.outline] ++ behind))
    (outline : outerReading.outline = reading.outline.map fun record =>
      heading.toStatement none (before ++ [record] ++ behind))
    (recorded : outerReading.recorded = reading.recorded) :
    Lacks keyword after rest outer outerReading := by
  cases lacks with
  | abandoned context atKeyword abandoned none_recorded =>
      refine .abandoned context atKeyword ?_ (recorded.trans none_recorded)
      rw [outline, abandoned]
      rfl
  | inside context record complete one_recorded kept =>
      refine .inside context (heading.toStatement none (before ++ [record] ++ behind)) ?_
        (recorded.trans one_recorded) (.within ?_)
      · rw [outline, complete]
        rfl
      · rw [outerOutline]
        exact kept.append before behind before behind

theorem ifThen (lacks : Lacks keyword after rest tree reading) (word : Token)
    (condition : List Token) :
    Lacks keyword after rest (.ifThen word condition tree) (.ifThen word condition reading) :=
  lacks.around (.ifThen word condition) [] [] rfl rfl rfl

theorem loop (lacks : Lacks keyword after rest tree reading) (word : Token)
    (condition : List Token) :
    Lacks keyword after rest (.loop word condition tree) (.loop word condition reading) :=
  lacks.around (.loop word condition) [] [] rfl rfl rfl

theorem consequence (lacks : Lacks keyword after rest tree reading) (word : Token)
    (condition : List Token) (alternative : SyntaxTree) :
    Lacks keyword after rest (.ifThenElse word condition tree alternative)
      (.ifThenElse word condition reading alternative.reading) := by
  refine lacks.around (.ifThenElse word condition) [] [alternative.outline] rfl ?_ ?_
  · rw [ParseTree.outline, SyntaxTree.outline_reading]
    rfl
  · rw [ParseTree.recorded, SyntaxTree.recorded_reading, List.append_nil]

theorem alternative (lacks : Lacks keyword after rest tree reading) (word : Token)
    (condition : List Token) (consequence : SyntaxTree) :
    Lacks keyword after rest (.ifThenElse word condition consequence tree)
      (.ifThenElse word condition consequence.reading reading) := by
  refine lacks.around (.ifThenElse word condition) [consequence.outline] [] rfl ?_ ?_
  · rw [ParseTree.outline, SyntaxTree.outline_reading]
    rfl
  · rw [ParseTree.recorded, SyntaxTree.recorded_reading, List.nil_append]

end Lacks

/-! ## In front of a keyword -/

theorem TokenKind.ne_of_startsStatement {kind other : TokenKind}
    (starts : kind.startsStatement = true) (never : other.startsStatement = false) :
    kind ≠ other := by
  rintro rfl
  rw [starts] at never
  cases never

theorem NoElse.of_startsStatement {keyword : Token} (starts : keyword.kind.startsStatement = true)
    (after : List Token) : NoElse (keyword :: after) := by
  intro next inside
  cases inside
  exact TokenKind.ne_of_startsStatement starts rfl

/-- In front of a keyword that begins a statement, recovery stays where it is. -/
theorem TokenStream.recovered_of_startsStatement {front after : List Token} {keyword stop : Token}
    {start : TokenStream} {rejection : Rejection} (starts : keyword.kind.startsStatement = true)
    (further : start.position ≠ (⟨front, keyword :: after, stop⟩ : TokenStream).position) :
    (⟨front, keyword :: after, stop⟩ : TokenStream).recovered start (some rejection) =
      ⟨front, keyword :: after, stop⟩ := by
  have boundary : discarded front.head? (keyword :: after) = [] := by
    rw [discarded, if_pos (by simp [isBoundary, starts])]
  have resumes : (⟨front, keyword :: after, stop⟩ : TokenStream).resumedAfter rejection.fault =
      ⟨front, keyword :: after, stop⟩ := by
    unfold resumedAfter resumed
    split
    · simp only [boundary]
      rfl
    · rfl
  rw [recovered_some, resumes, if_neg (Ne.symm further)]

/-- The stream behind an expression in front of a token that ends it. -/
theorem TokenStream.behindExpression_append {front expression rest : List Token}
    {ending stop : Token} (isExpression : IsExpression expression)
    (ends : ending.kind.endsExpression = true) :
    (⟨front, expression ++ ending :: rest, stop⟩ : TokenStream).behindExpression =
      ⟨expression.reverse ++ front, ending :: rest, stop⟩ := by
  simp only [behindExpression, moveOver, isExpression.captured_append ends, List.take_left,
    List.drop_left]

/-- A `write` without its semicolon is abandoned at the token that is found instead. -/
theorem fails_write {expression : List Token} {opening closing found : Token}
    (isOpening : opening.kind = .operator .leftParen) (isExpression : IsExpression expression)
    (isClosing : closing.kind = .operator .rightParen) (other : found.kind ≠ .operator .semicolon)
    (front rest : List Token) (stop : Token) :
    Fails Keyword.writeWord.demands
      ⟨front, opening :: (expression ++ closing :: found :: rest), stop⟩
      ⟨.expected (.operator .semicolon) "after write()", found⟩
      ⟨closing :: (expression.reverse ++ opening :: front), found :: rest, stop⟩ := by
  refine .token isOpening (.expression ?_)
  rw [TokenStream.behindExpression_append isExpression (by rw [isClosing]; rfl)]
  exact .token isClosing (.here (by simpa using other))

/-! ## Items without a semicolon -/

/-- What is read instead of some declarations and statements where a semicolon in front of a keyword
is missing: one rejection is recorded, at the keyword, and what begins there is recorded, too. -/
structure LacksAmong (keyword : Token) (after : List Token) (trees : List SyntaxTree) (levels : Nat)
    (stream final : TokenStream) (readings : List ParseTree) : Prop where
  reads : ∀ {stops : TokenStream → Bool}, GoesOn stops →
    ∀ {others : List ParseTree} {last : TokenStream}, ReadsItems stops levels final others last →
      ReadsItems stops levels stream (readings ++ others) last
  recorded : ∃ context, ParseTree.recordedAll readings =
    [⟨.expected (.operator .semicolon) context, keyword⟩]
  kept : RecordedAt (keyword :: after) (SyntaxTree.outlineAll trees)
    (ParseTree.outlineAll readings)

namespace LacksAmong

variable {keyword token stop : Token} {after rest front front' middle behind : List Token}
  {trees : List SyntaxTree} {tree : SyntaxTree} {levels : Nat}

/-- The semicolon is missing in the first of some items, the others are read as before. -/
theorem head {reading : ParseTree} (starts : keyword.kind.startsStatement = true)
    (notBrace : token.kind ≠ .operator .rightBrace)
    (item : ReadsItem levels ⟨front, token :: (middle ++ keyword :: after), stop⟩ reading
      ⟨front', behind, stop⟩)
    (lacks : Lacks keyword after behind tree reading) (derives : DerivesItems trees behind rest)
    (fits : SyntaxTree.levelsAll trees ≤ levels)
    (later : ∀ first ∈ rest.head?, first.kind.startsStatement = false) :
    ∃ last, LacksAmong keyword after (tree :: trees) levels
      ⟨front, token :: (middle ++ keyword :: after), stop⟩ ⟨last, rest, stop⟩
      (reading :: SyntaxTree.readingAll trees) := by
  obtain ⟨last, reads⟩ := derives.reads stop fits front'
  cases lacks with
  | inside context record outline recorded kept =>
      refine ⟨last, fun goesOn _ _ after => .next (goesOn _ token _ rfl notBrace) item ?_,
        ⟨context, ?_⟩, ?_⟩
      · rw [ParseTree.rejection?, outline]
        exact reads goesOn after
      · rw [ParseTree.recordedAll, recorded, ParseTree.rejection?, outline,
          SyntaxTree.recordedAll_readingAll]
        rfl
      · rw [ParseTree.outlineAll, outline, SyntaxTree.outlineAll_readingAll]
        exact kept.append [] _ [] _
  | abandoned context atKeyword outline recorded =>
      subst atKeyword
      -- Something begins at the keyword, which does not stand behind the items.
      have more : keyword :: after ≠ rest := by
        rintro rfl
        have never := later keyword rfl
        rw [starts] at never
        cases never
      have further : (⟨front, token :: (middle ++ keyword :: after), stop⟩ : TokenStream).position ≠
          (⟨front', keyword :: after, stop⟩ : TokenStream).position := by
        have size := item.moves.position_eq
        simp only [List.length_cons, List.length_append] at size
        omega
      refine ⟨last, fun goesOn _ _ after => .next (goesOn _ token _ rfl notBrace) item ?_,
        ⟨context, ?_⟩, ?_⟩
      · rw [ParseTree.rejection?, outline,
          TokenStream.recovered_of_startsStatement starts further]
        exact reads goesOn after
      · rw [ParseTree.recordedAll, recorded, ParseTree.rejection?, outline,
          SyntaxTree.recordedAll_readingAll]
        rfl
      · rw [ParseTree.outlineAll, outline, SyntaxTree.outlineAll_readingAll]
        have kept := (derives.recordedAt more).append [tree.outline] [] [] []
        rwa [List.append_nil, List.append_nil] at kept

/-- The first of some items is read as before, the semicolon is missing in the others. -/
theorem tail {readings : List ParseTree} {input : List Token} {final : TokenStream}
    (derives : DerivesItem tree input behind)
    (item : ReadsItem levels ⟨front, input, stop⟩ tree.reading ⟨front', behind, stop⟩)
    (others : LacksAmong keyword after trees levels ⟨front', behind, stop⟩ final readings) :
    LacksAmong keyword after (tree :: trees) levels ⟨front, input, stop⟩ final
      (tree.reading :: readings) := by
  obtain ⟨first, _, rfl, notBrace⟩ := derives.exists_head
  obtain ⟨context, recorded⟩ := others.recorded
  refine ⟨fun goesOn _ _ after => .next (goesOn _ first _ rfl notBrace) item ?_, ⟨context, ?_⟩, ?_⟩
  · rw [SyntaxTree.rejection?_reading]
    exact others.reads goesOn after
  · rw [ParseTree.recordedAll, recorded, SyntaxTree.recorded_reading,
      SyntaxTree.rejection?_reading]
    rfl
  · rw [ParseTree.outlineAll, SyntaxTree.outline_reading]
    have kept := others.kept.append [tree.outline] [] [tree.outline] []
    rwa [List.append_nil, List.append_nil] at kept

end LacksAmong

/-! ## Statements without a semicolon -/

section Missing

variable {semicolon keyword : Token} {after : List Token} (stop : Token)

mutual
/-- **A statement without one of its semicolons** is abandoned at the keyword behind it, or
something inside it is. -/
theorem StatementEndsAt.lacks (starts : keyword.kind.startsStatement = true) :
    ∀ {tree node : SyntaxTree} {input rest : List Token},
    StatementEndsAt tree input rest node (semicolon :: keyword :: after) →
    node.endsWithExpression = false → ∀ {levels : Nat}, tree.levels ≤ levels →
    ∃ run, input = run ++ semicolon :: keyword :: after ∧ run ≠ [] ∧
      ∀ front, ∃ reading front',
        Reads levels ⟨front, run ++ keyword :: after, stop⟩ reading ⟨front', rest, stop⟩ ∧
          Lacks keyword after rest tree reading
  | _, _, _, _, @StatementEndsAt.read word opening name closing _ _ isKeyword isOpening isName
      isClosing _, _, _ + 1, _ => by
      have other : keyword.kind ≠ .operator .semicolon := TokenKind.ne_of_startsStatement starts rfl
      refine ⟨[word, opening, name, closing], rfl, by simp, fun front => ⟨_, _, .keywordFails
        isKeyword (.token isOpening (.token isName (.token isClosing (.here ?_)))),
        .abandoned "after read()" rfl rfl rfl⟩⟩
      simpa using other
  | _, _, _, _, @StatementEndsAt.write word opening closing _ expression _ isKeyword isOpening
      isExpression isClosing _, _, _ + 1, _ => by
      have other : keyword.kind ≠ .operator .semicolon := TokenKind.ne_of_startsStatement starts rfl
      refine ⟨word :: opening :: (expression ++ [closing]), by simp, by simp, fun front => ?_⟩
      have fails := fails_write isOpening isExpression isClosing other (word :: front) after stop
      have outer (levels : Nat) := @Reads.keywordFails levels _ _ _ _ _ _ _ isKeyword fails
      exact ⟨_, _, by simpa using outer _, .abandoned "after write()" rfl rfl rfl⟩
  | _, _, _, _, .expression _ _ _, plain, _, _ => by cases plain
  | _, _, _, _, @StatementEndsAt.ifThen word opening closing thenToken condition _ _ _ _ _
      isKeyword isOpening isExpression isClosing isThen consequence alone, plain, _ + 1, fits => by
      obtain ⟨run, rfl, -, reads⟩ := consequence.lacks starts plain (Nat.le_of_succ_le_succ fits)
      refine ⟨word :: opening :: (condition ++ closing :: thenToken :: run), by simp, by simp,
        fun front => ?_⟩
      obtain ⟨reading, front', inner, lacks⟩ :=
        reads (thenToken :: closing :: (condition.reverse ++ opening :: word :: front))
      have outer := Reads.ifThen isKeyword isOpening isExpression isClosing isThen inner
        fun _ => alone
      exact ⟨_, front', by simpa using outer, lacks.ifThen word condition⟩
  | _, _, _, _, @StatementEndsAt.consequence word opening closing thenToken elseToken condition _ _
      _ _ _ _ _ isKeyword isOpening isExpression isClosing isThen consequence isElse alternative,
      plain, _ + 1, fits => by
      have fits := Nat.max_le.mp (Nat.le_of_succ_le_succ fits)
      obtain ⟨run, rfl, -, reads⟩ := consequence.lacks starts plain fits.1
      refine ⟨word :: opening :: (condition ++ closing :: thenToken :: run), by simp, by simp,
        fun front => ?_⟩
      obtain ⟨reading, middle, inner, lacks⟩ :=
        reads (thenToken :: closing :: (condition.reverse ++ opening :: word :: front))
      obtain ⟨front', otherwise⟩ := alternative.reads stop fits.2 (elseToken :: middle)
      have atElse (more : List Token) : elseToken :: more ≠ keyword :: after := by
        intro same
        rw [← (List.cons.inj same).1, isElse] at starts
        cases starts
      have outer := Reads.ifThenElse isKeyword isOpening isExpression isClosing isThen inner
        (lacks.rejection?_eq_none (atElse _)) isElse otherwise
      exact ⟨_, front', by simpa using outer,
        (lacks.elsewhere (atElse _) _).consequence word condition _⟩
  | _, _, _, _, @StatementEndsAt.alternative word opening closing thenToken elseToken condition _ _
      _ _ _ _ _ isKeyword isOpening isExpression isClosing isThen consequence isElse alternative,
      plain, _ + 1, fits => by
      have fits := Nat.max_le.mp (Nat.le_of_succ_le_succ fits)
      obtain ⟨run, rfl, -, reads⟩ := alternative.lacks starts plain fits.2
      obtain ⟨first, rfl, -, derives⟩ := consequence.exists_run
      refine ⟨word :: opening :: (condition ++ closing :: thenToken :: (first ++ elseToken :: run)),
        by simp, by simp, fun front => ?_⟩
      obtain ⟨middle, inner⟩ := (derives (elseToken :: (run ++ keyword :: after)) id).reads stop
        fits.1 (thenToken :: closing :: (condition.reverse ++ opening :: word :: front))
      obtain ⟨reading, front', otherwise, lacks⟩ := reads (elseToken :: middle)
      have outer := Reads.ifThenElse isKeyword isOpening isExpression isClosing isThen inner
        (SyntaxTree.rejection?_reading _) isElse otherwise
      exact ⟨_, front', by simpa using outer, lacks.alternative word condition _⟩
  | _, _, _, _, @StatementEndsAt.loop word opening closing condition _ _ _ _ _ isKeyword isOpening
      isExpression isClosing block, plain, _, fits => by
      obtain ⟨_, rfl⟩ := Nat.exists_eq_add_one.mpr
        (Nat.lt_of_lt_of_le block.derives.levels_pos fits)
      obtain ⟨run, rfl, -, reads⟩ := block.lacks starts plain fits
      refine ⟨word :: opening :: (condition ++ closing :: run), by simp, by simp, fun front => ?_⟩
      obtain ⟨reading, front', inner, lacks⟩ :=
        reads (closing :: (condition.reverse ++ opening :: word :: front))
      have outer := Reads.loop isKeyword isOpening isExpression isClosing inner
      exact ⟨_, front', by simpa using outer, lacks.loop word condition⟩
  | _, _, _, _, .block block, plain, _, fits => by
      obtain ⟨_, rfl⟩ := Nat.exists_eq_add_one.mpr
        (Nat.lt_of_lt_of_le block.derives.levels_pos fits)
      obtain ⟨run, split, some_token, reads⟩ := block.lacks starts plain fits
      refine ⟨run, split, some_token, fun front => ?_⟩
      obtain ⟨reading, front', inner, lacks⟩ := reads front
      exact ⟨reading, front', .block inner, lacks⟩

theorem BlockEndsAt.lacks (starts : keyword.kind.startsStatement = true) :
    ∀ {tree node : SyntaxTree} {input rest : List Token},
    BlockEndsAt tree input rest node (semicolon :: keyword :: after) →
    node.endsWithExpression = false → ∀ {levels : Nat}, tree.levels ≤ levels + 1 →
    ∃ run, input = run ++ semicolon :: keyword :: after ∧ run ≠ [] ∧
      ∀ front, ∃ reading front',
        ReadsBlock levels ⟨front, run ++ keyword :: after, stop⟩ reading ⟨front', rest, stop⟩ ∧
          Lacks keyword after rest tree reading
  | _, _, _, _, @BlockEndsAt.braces opening closing _ _ _ _ _ isOpening items isClosing, plain, _,
      fits => by
      obtain ⟨run, rfl, reads⟩ := items.lacks starts (by simp [isClosing]; rfl) plain
        (Nat.le_of_succ_le_succ fits)
      refine ⟨opening :: run, rfl, by simp, fun front => ?_⟩
      obtain ⟨readings, front', lacks⟩ := reads (opening :: front)
      have stopped := lacks.reads goesOn_blockStops (.done (by
        simp [blockStops, TokenStream.startsWith, isClosing]))
      rw [List.append_nil] at stopped
      obtain ⟨context, recorded⟩ := lacks.recorded
      refine ⟨.block opening readings none, _, .closed isOpening stopped isClosing, .inside context
        ((Heading.block opening).toStatement none (ParseTree.outlineAll readings)) rfl ?_
        (.within lacks.kept)⟩
      rw [ParseTree.recorded, recorded]
      rfl

theorem ItemEndsAt.lacks (starts : keyword.kind.startsStatement = true) :
    ∀ {tree node : SyntaxTree} {input rest : List Token},
    ItemEndsAt tree input rest node (semicolon :: keyword :: after) →
    node.endsWithExpression = false → ∀ {levels : Nat}, tree.levels ≤ levels →
    ∃ run, input = run ++ semicolon :: keyword :: after ∧ run ≠ [] ∧
      ∀ front, ∃ reading front',
        ReadsItem levels ⟨front, run ++ keyword :: after, stop⟩ reading ⟨front', rest, stop⟩ ∧
          Lacks keyword after rest tree reading
  | _, _, _, _, @ItemEndsAt.declaration typeToken name _ _ _ isType names isName _, _, _, _ => by
      have other : keyword.kind ≠ .operator .semicolon := TokenKind.ne_of_startsStatement starts rfl
      have noSign : keyword.kind ≠ .operator .assign := TokenKind.ne_of_startsStatement starts rfl
      exact ⟨[typeToken, name], rfl, by simp, fun front => ⟨_, _, .unended isType names isName
        (by simpa using noSign) (.here (by simpa using other)),
        .abandoned "after the declaration" rfl rfl rfl⟩⟩
  | _, _, _, _, .initialized _ _ _ _ _ _, plain, _, _ => by cases plain
  | _, _, _, _, .statement notType statement, plain, _, fits => by
      obtain ⟨_ | ⟨first, run⟩, rfl, some_token, reads⟩ := statement.lacks starts plain fits
      · exact absurd rfl some_token
      · refine ⟨first :: run, rfl, some_token, fun front => ?_⟩
        obtain ⟨reading, front', inner, lacks⟩ := reads front
        exact ⟨reading, front', .statement notType inner, lacks⟩

/-- Declarations and statements without one of their semicolons, in front of something that does not
begin with a keyword. -/
theorem ItemsEndAt.lacks (starts : keyword.kind.startsStatement = true) :
    ∀ {trees : List SyntaxTree} {node : SyntaxTree} {input rest : List Token},
    ItemsEndAt trees input rest node (semicolon :: keyword :: after) →
    (∀ first ∈ rest.head?, first.kind.startsStatement = false) →
    node.endsWithExpression = false → ∀ {levels : Nat}, SyntaxTree.levelsAll trees ≤ levels →
    ∃ run, input = run ++ semicolon :: keyword :: after ∧
      ∀ front, ∃ readings front', LacksAmong keyword after trees levels
        ⟨front, run ++ keyword :: after, stop⟩ ⟨front', rest, stop⟩ readings
  | _, _, _, _, .head item others, later, plain, _, fits => by
      have fits := Nat.max_le.mp fits
      obtain ⟨_ | ⟨first, run⟩, split, some_token, reads⟩ := item.lacks starts plain fits.1
      · exact absurd rfl some_token
      obtain ⟨_, _, begins, notBrace⟩ := item.derives.exists_head
      rw [split] at begins
      obtain ⟨rfl, -⟩ := List.cons.inj begins
      refine ⟨first :: run, split, fun front => ?_⟩
      obtain ⟨reading, middle, inner, lacks⟩ := reads front
      exact ⟨_, LacksAmong.head starts notBrace inner lacks others fits.2 later⟩
  | _, _, _, _, .tail item others, later, plain, _, fits => by
      have fits := Nat.max_le.mp fits
      obtain ⟨run, rfl, reads⟩ := others.lacks starts later plain fits.2
      obtain ⟨first, rfl, some_token, derives⟩ := item.exists_run
      -- What stands behind the first item still begins with no `else`.
      have derived := derives (run ++ keyword :: after)
        (.exchange fun _ => .of_startsStatement starts after)
      refine ⟨first ++ run, by simp, fun front => ?_⟩
      obtain ⟨middle, inner⟩ := derived.reads stop fits.1 front
      obtain ⟨readings, front', lacks⟩ := reads middle
      rw [List.append_assoc]
      exact ⟨_, front', .tail derived inner lacks⟩
end

end Missing

/-! ## Programs without a semicolon -/

/-- The items of a program without a semicolon are read to the end, with one rejection. -/
theorem ItemsEndAt.exists_readsProgram {trees : List SyntaxTree} {node : SyntaxTree}
    {tokens front after shorter : List Token} {semicolon keyword : Token}
    (ends : ItemsEndAt trees tokens [] node (semicolon :: keyword :: after))
    (plain : node.endsWithExpression = false) (starts : keyword.kind.startsStatement = true)
    (fits : SyntaxTree.levelsAll trees ≤ maxNesting)
    (whole : tokens = front ++ semicolon :: keyword :: after)
    (without : programTokens shorter = front ++ keyword :: after) :
    ∃ readings final, ReadsProgram (.ofTokens shorter) readings final ∧
      (∃ context, ParseTree.recordedAll readings =
        [⟨.expected (.operator .semicolon) context, keyword⟩]) ∧
      RecordedAt (keyword :: after) (SyntaxTree.outlineAll trees)
        (ParseTree.outlineAll readings) := by
  obtain ⟨run, split, reads⟩ := ends.lacks (TokenStream.ofTokens shorter).stop starts (by simp)
    plain fits
  obtain rfl : run = front := List.append_cancel_right (split.symm.trans whole)
  obtain ⟨readings, _, lacks⟩ := reads []
  rw [← without] at lacks
  have stopped := lacks.reads goesOn_atEnd (.done rfl)
  rw [List.append_nil] at stopped
  exact ⟨readings, _, stopped, lacks.recorded, lacks.kept⟩

/-- **A missing semicolon in front of a keyword is reported** at the keyword, and nothing else is.
A program is parsed without a diagnostic about grammar, and a semicolon in front of a keyword that
begins a declaration or a statement ends in its derivation a declaration without an initial value, a
`read` or a `write`. Without this semicolon, one diagnostic about grammar is recorded, and the
declaration or the statement that begins at the keyword is recorded as before. -/
theorem missing_semicolon_reported {policy : RedeclarationPolicy}
    {tokens shorter front after : List Token} {semicolon keyword : Token}
    {statements : List Statement} {state : ParseState} {trees : List SyntaxTree} {node : SyntaxTree}
    (run : program policy (.ofTokens tokens) = .ok statements state)
    (clean : state.diagnostics.ofCategory .syntactic = [])
    (ends : ItemsEndAt trees (programTokens tokens) [] node (semicolon :: keyword :: after))
    (plain : node.endsWithExpression = false) (starts : keyword.kind.startsStatement = true)
    (whole : programTokens tokens = front ++ semicolon :: keyword :: after)
    (without : programTokens shorter = front ++ keyword :: after) :
    ∃ found last, program policy (.ofTokens shorter) = .ok found last ∧
      (∃ diagnostic, last.diagnostics.ofCategory .syntactic = [diagnostic] ∧
        diagnostic.code = some "P001" ∧ diagnostic.location = keyword.location) ∧
      ∃ tree rest, DerivesItem tree (keyword :: after) rest ∧
        tree.outline ∈ Statement.walkAll (statements.map Statement.untyped) ∧
        tree.outline ∈ Statement.walkAll (found.map Statement.untyped) := by
  have derives := DerivesProgram.of_clean_run run clean ends.derives
  obtain ⟨readings, final, reads, ⟨context, recorded⟩, tree, rest, begins, before, behind⟩ :=
    ends.exists_readsProgram plain starts derives.2 whole without
  have effect := ParseTree.effectAll_syntactic policy readings .nothing
  rw [recorded] at effect
  refine ⟨_, _, program_of_reads reads policy 0 .nothing, ⟨_, effect, rfl, rfl⟩, tree, rest, begins,
    ?_, ?_⟩
  · obtain ⟨_, -, same⟩ := derives.run (.ofTokens tokens) policy 0 .nothing
    have records := (EStateM.Result.ok.inj (run.symm.trans same)).1
    rwa [records, ← Statement.untypedAll_eq_map, ParseTree.effectAll_untyped,
      SyntaxTree.outlineAll_readingAll]
  · rwa [← Statement.untypedAll_eq_map, ParseTree.effectAll_untyped]

/-- The tokens of `long y;` behind another declaration. -/
def nextDeclarationTokens : List Token :=
  [⟨.keyword .longType, "long", none, ⟨"<string>", 1, 13, 12⟩⟩,
    ⟨.identifier, "y", none, ⟨"<string>", 1, 18, 17⟩⟩,
    ⟨.operator .semicolon, ";", none, ⟨"<string>", 1, 19, 18⟩⟩]

/-- `long y;` is derivable. -/
theorem derives_nextDeclarationTokens : ∃ trees, DerivesItems trees nextDeclarationTokens [] :=
  ⟨[_], .cons (@DerivesItem.declaration _ _ _ .long _ rfl rfl rfl rfl) .nil⟩

/-- The first semicolon of `long x; long y;` is missed at the second `long`. -/
theorem missing_semicolon_reported_between_declarations :
    ∃ statements state,
      program {} (.ofTokens (declarationTokens ++ nextDeclarationTokens)) = .ok statements state ∧
      state.diagnostics.ofCategory .syntactic = [] ∧
      ∃ found last,
        program {} (.ofTokens (declarationTokens.take 2 ++ nextDeclarationTokens)) =
          .ok found last ∧
        (∃ diagnostic, last.diagnostics.ofCategory .syntactic = [diagnostic] ∧
          diagnostic.code = some "P001" ∧ diagnostic.location = ⟨"<string>", 1, 13, 12⟩) ∧
        ∃ tree rest, DerivesItem tree nextDeclarationTokens rest ∧
          tree.outline ∈ Statement.walkAll (statements.map Statement.untyped) ∧
          tree.outline ∈ Statement.walkAll (found.map Statement.untyped) := by
  obtain ⟨statements, state, run, clean⟩ : ∃ statements state,
      program {} (.ofTokens (declarationTokens ++ nextDeclarationTokens)) = .ok statements state ∧
        state.diagnostics.ofCategory .syntactic = [] := ⟨_, _, rfl, rfl⟩
  obtain ⟨trees, second⟩ := derives_nextDeclarationTokens
  have ends : ItemsEndAt (_ :: trees) (programTokens (declarationTokens ++ nextDeclarationTokens))
      [] _ (declarationTokens.drop 2 ++ nextDeclarationTokens) :=
    .head (@ItemEndsAt.declaration _ _ _ .long _ rfl rfl rfl rfl) second
  have front : programTokens (declarationTokens ++ nextDeclarationTokens) =
    declarationTokens.take 2 ++ (declarationTokens.drop 2 ++ nextDeclarationTokens) := rfl
  exact ⟨statements, state, run, clean, missing_semicolon_reported run clean ends rfl rfl front rfl⟩

/-- The tokens of `long x = 1` without a semicolon. -/
def unendedInitialTokens : List Token :=
  [⟨.keyword .longType, "long", none, ⟨"<string>", 1, 1, 0⟩⟩,
    ⟨.identifier, "x", none, ⟨"<string>", 1, 6, 5⟩⟩,
    ⟨.operator .assign, "=", none, ⟨"<string>", 1, 8, 7⟩⟩,
    ⟨.integer, "1", some (.integer 1), ⟨"<string>", 1, 10, 9⟩⟩]

/-- The semicolon behind `long x = 1`. -/
def initialEndToken : Token := ⟨.operator .semicolon, ";", none, ⟨"<string>", 1, 11, 10⟩⟩

/-- In `long x = 1; long y;` the first semicolon ends a declaration and stands in front of a
keyword. Without it nothing is reported, and nothing is recorded at the keyword. -/
theorem missing_semicolon_unnoticed :
    ∃ statements state trees node keyword after,
      program {} (.ofTokens (unendedInitialTokens ++ initialEndToken :: nextDeclarationTokens)) =
        .ok statements state ∧
      state.diagnostics.ofCategory .syntactic = [] ∧
      ItemsEndAt trees
        (programTokens (unendedInitialTokens ++ initialEndToken :: nextDeclarationTokens)) []
        node (initialEndToken :: nextDeclarationTokens) ∧
      nextDeclarationTokens = keyword :: after ∧ keyword.kind.startsStatement = true ∧
      ∃ found last,
        program {} (.ofTokens (unendedInitialTokens ++ nextDeclarationTokens)) = .ok found last ∧
        last.diagnostics.ofCategory .syntactic = [] ∧
        ∀ record ∈ Statement.walkAll found, record.location ≠ keyword.location := by
  obtain ⟨trees, second⟩ := derives_nextDeclarationTokens
  have isExpression : IsExpression (unendedInitialTokens.drop 3) :=
    .plain ⟨by decide, by decide⟩ (by decide) (by decide) .nil
  have ends : ItemsEndAt (_ :: trees)
      (programTokens (unendedInitialTokens ++ initialEndToken :: nextDeclarationTokens)) [] _
      (initialEndToken :: nextDeclarationTokens) :=
    .head (@ItemEndsAt.initialized _ _ _ initialEndToken .long (unendedInitialTokens.drop 3) _ rfl
      rfl rfl rfl isExpression rfl) second
  refine ⟨_, _, _, _, _, _, rfl, rfl, ends, rfl, rfl, _, _, rfl, rfl, ?_⟩
  decide

end NumericLanguage
