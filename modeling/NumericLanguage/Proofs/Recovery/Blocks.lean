import NumericLanguage.Proofs.Reading.Program
import NumericLanguage.Proofs.Recovery.Brackets

/-!
# Blocks that are reported as unclosed

A block is reported as unclosed when the input ends inside it. In tokens that are nested together
this has one cause: recovery in the block went on beyond its closing brace. Statements, also those
that are skipped or abandoned, keep the braces around them (`Reads.staysInside`), and so does the
step over a token where recovery found nothing to discard. What is discarded in the search for a
boundary need not, since a closing brace is no boundary. So behind every report of an unclosed block
there is an earlier one of an unexpected token whose recovery loses a brace
(`unclosed_behind_lostBrace`), and there are well-nested tokens with such reports
(`unclosed_in_wellNested`).
-/

set_option autoImplicit false

namespace NumericLanguage

open Parse ParseState

/-! ## Lost braces -/

namespace Rejection

/-- An unexpected token of a list, from which recovery discards a run that closes more braces than
it opens. -/
def LosesBrace (tokens : List Token) (rejection : Rejection) : Prop :=
  (∃ kind context, rejection.fault = .expected kind context) ∧
    ∃ front behind, tokens = front ++ rejection.found :: behind ∧
      ¬ KeepsBraces (discarded front.getLast? (rejection.found :: behind))

/-- The report of a block without its closing brace. -/
def IsUnclosed (rejection : Rejection) : Prop :=
  ∃ opening, rejection.fault = .unclosedBlock opening

end Rejection

/-- Among some rejections, each unclosed block comes behind a lost brace. -/
def Explained (tokens : List Token) (rejections : List Rejection) : Prop :=
  ∀ before rejection behind, rejections = before ++ rejection :: behind → rejection.IsUnclosed →
    ∃ earlier ∈ before, earlier.LosesBrace tokens

namespace Explained

variable {tokens : List Token} {rejections others : List Rejection}

theorem nil : Explained tokens [] := by
  intro before rejection behind split
  exact absurd split (by simp)

theorem of_none (none_unclosed : ∀ rejection ∈ rejections, ¬ rejection.IsUnclosed) :
    Explained tokens rejections := by
  rintro before rejection behind rfl unclosed
  exact absurd unclosed (none_unclosed rejection (by simp))

theorem append (first : Explained tokens rejections) (second : Explained tokens others) :
    Explained tokens (rejections ++ others) := by
  intro before rejection behind split unclosed
  rcases List.append_eq_append_iff.mp split with ⟨more, rfl, rest⟩ | ⟨more, rfl, rest⟩
  · obtain ⟨earlier, inside, loses⟩ := second more rejection behind rest unclosed
    exact ⟨earlier, List.mem_append_right _ inside, loses⟩
  · cases more with
    | nil =>
        obtain ⟨earlier, inside, -⟩ := second [] rejection behind rest.symm unclosed
        cases inside
    | cons next more =>
        obtain ⟨rfl, rfl⟩ := List.cons.inj rest
        exact first before rejection more rfl unclosed

/-- An unclosed block at the end is explained by a lost brace in front. -/
theorem concat (first : Explained tokens rejections) {rejection : Rejection}
    (lost : ∃ earlier ∈ rejections, earlier.LosesBrace tokens) :
    Explained tokens (rejections ++ [rejection]) := by
  intro before other behind split unclosed
  rcases List.append_eq_append_iff.mp split with ⟨more, rfl, rest⟩ | ⟨more, rfl, rest⟩
  · obtain ⟨earlier, inside, loses⟩ := lost
    exact ⟨earlier, List.mem_append_left _ inside, loses⟩
  · cases more with
    | nil =>
        rw [List.append_nil] at lost
        exact lost
    | cons next more =>
        obtain ⟨rfl, rfl⟩ := List.cons.inj rest
        exact first before other more rfl unclosed

end Explained

/-! ## Places inside a block -/

namespace TokenStream

/-- A later place in the same stream, reached over a run that closes no more braces than it
opens. -/
def StaysInside (stream final : TokenStream) : Prop :=
  ∃ run rest, stream.rest = run ++ rest ∧
    final = ⟨run.reverse ++ stream.consumed, rest, stream.stop⟩ ∧ KeepsBraces run

namespace StaysInside

variable {stream middle final : TokenStream}

theorem refl (stream : TokenStream) : StaysInside stream stream :=
  ⟨[], stream.rest, rfl, rfl, .nil⟩

theorem trans (first : StaysInside stream middle) (second : StaysInside middle final) :
    StaysInside stream final := by
  obtain ⟨run, rest, split, rfl, keeps⟩ := first
  obtain ⟨more, behind, again, rfl, keepsMore⟩ := second
  refine ⟨run ++ more, behind, ?_, ?_, keeps.append keepsMore⟩
  · rw [split, List.append_assoc, ← again]
  · simp only [List.reverse_append, List.append_assoc]

theorem one {token : Token} (notBrace : token.kind ≠ .operator .rightBrace)
    (front rest : List Token) (stop : Token) :
    StaysInside ⟨front, token :: rest, stop⟩ ⟨token :: front, rest, stop⟩ :=
  ⟨[token], rest, rfl, rfl, .one notBrace⟩

theorem moves (stays : StaysInside stream final) : stream.Moves final := by
  obtain ⟨run, rest, split, same, -⟩ := stays
  exact ⟨run, rest, split, same⟩

/-- A move over a run at the place. -/
theorem moveOver {run : List Token} (inFront : run <+: stream.rest) (keeps : KeepsBraces run) :
    StaysInside stream (stream.moveOver run.length) := by
  refine ⟨run, stream.rest.drop run.length, ?_, ?_, keeps⟩
  · obtain ⟨rest, split⟩ := inFront
    rw [← split, List.drop_left]
  · rw [TokenStream.moveOver, ← List.prefix_iff_eq_take.mp inFront]

end StaysInside

/-- A place in a list of tokens, up to the end of the input. -/
def InTokens (tokens : List Token) (stream : TokenStream) : Prop :=
  stream.consumed.reverse ++ stream.rest = tokens

theorem InTokens.moves {tokens : List Token} {stream final : TokenStream}
    (inTokens : InTokens tokens stream) (moves : stream.Moves final) : InTokens tokens final := by
  obtain ⟨run, rest, split, rfl⟩ := moves
  unfold InTokens at *
  rw [split] at inTokens
  simpa using inTokens

theorem InTokens.closesAll {tokens : List Token} {stream : TokenStream}
    (inTokens : InTokens tokens stream) (nested : WellNested tokens) : ClosesAll stream.rest := by
  unfold InTokens at inTokens
  subst inTokens
  exact ClosesAll.of_append ⟨[], nested⟩

end TokenStream

open TokenStream (StaysInside InTokens)

/-! ## Where a reading was abandoned -/

/-- A statement is abandoned at its end, or was skipped because it was nested too deep. -/
theorem Reads.abandoned {levels : Nat} : ∀ {stream final : TokenStream} {reading : ParseTree}
    {rejection : Rejection}, Reads levels stream reading final →
    reading.rejection? = some rejection →
    rejection.fault = .tooDeep maxNesting ∨
      ∃ kind context, rejection = ⟨.expected kind context, final.peek⟩ := by
  induction levels with
  | zero =>
      rintro stream final reading rejection ⟨⟩ abandoned
      cases abandoned
      exact .inl rfl
  | succ levels ih =>
      intro stream final reading rejection reads abandoned
      cases reads with
      | read | write | expression => cases abandoned
      | ifThen _ _ _ _ _ consequence _ =>
          rw [ParseTree.rejection?_ifThen] at abandoned
          exact ih consequence abandoned
      | ifThenElse _ _ _ _ _ _ ended _ alternative =>
          rw [ParseTree.rejection?_ifThenElse, ended, Option.none_or] at abandoned
          exact ih alternative abandoned
      | loop _ _ _ _ block => cases block <;> cases abandoned
      | block block => cases block <;> cases abandoned
      | keywordFails _ fails =>
          cases abandoned
          obtain ⟨kind, context, rfl, -⟩ := fails.exists_expected
          exact .inr ⟨kind, context, rfl⟩
      | expressionFails _ fails =>
          cases abandoned
          obtain ⟨kind, context, rfl, -⟩ := fails.exists_expected
          exact .inr ⟨kind, context, rfl⟩

/-- An item is abandoned at its end, or was skipped because it was nested too deep. -/
theorem ReadsItem.abandoned {levels : Nat} {stream final : TokenStream} {reading : ParseTree}
    {rejection : Rejection} (reads : ReadsItem levels stream reading final)
    (isAbandoned : reading.rejection? = some rejection) :
    rejection.fault = .tooDeep maxNesting ∨
      ∃ kind context, rejection = ⟨.expected kind context, final.peek⟩ := by
  cases reads with
  | declaration | initialized => cases isAbandoned
  | statement _ statement => exact statement.abandoned isAbandoned
  | nameless _ _ fails | unended _ _ _ _ fails | unendedInitial _ _ _ _ fails =>
      cases isAbandoned
      obtain ⟨kind, context, rfl, -⟩ := fails.exists_expected
      exact .inr ⟨kind, context, rfl⟩

/-- The rejection of an abandoned item reports no unclosed block. -/
theorem ReadsItem.not_isUnclosed {levels : Nat} {stream final : TokenStream} {reading : ParseTree}
    {rejection : Rejection} (reads : ReadsItem levels stream reading final)
    (isAbandoned : reading.rejection? = some rejection) : ¬ rejection.IsUnclosed := by
  rintro ⟨opening, unclosed⟩
  rcases reads.abandoned isAbandoned with tooDeep | ⟨kind, context, rfl⟩
  · cases tooDeep.symm.trans unclosed
  · cases unclosed

/-! ## Demands inside a block -/

/-- A demand for a closing brace. -/
def Demand.closesBlock : Demand → Bool
  | .token (.operator .rightBrace) _ => true
  | _ => false

theorem Keyword.demands_closesBlock (word : Keyword) :
    ∀ demand ∈ word.demands, demand.closesBlock = false := by
  cases word <;> decide

section Inside

variable {tokens : List Token} (nested : WellNested tokens)

include nested

theorem TokenStream.InTokens.behindExpression {stream : TokenStream}
    (inTokens : InTokens tokens stream) : StaysInside stream stream.behindExpression := by
  have inFront := captured_prefix 0 stream.rest
  exact .moveOver inFront (keepsBraces_captured (inTokens.closesAll nested))

/-- An expression in front of a token that ends it keeps the braces around it. -/
theorem TokenStream.InTokens.keepsBraces {front expression rest : List Token} {ending stop : Token}
    (inTokens : InTokens tokens ⟨front, expression ++ ending :: rest, stop⟩)
    (isExpression : IsExpression expression) (ends : ending.kind.endsExpression = true) :
    KeepsBraces expression := by
  have keeps := keepsBraces_captured (inTokens.closesAll nested)
  rwa [isExpression.captured_append ends rest] at keeps

/-- Demands are tried without leaving the block around them. -/
theorem Fails.staysInside {demands : List Demand} {stream final : TokenStream}
    {rejection : Rejection} (fails : Fails demands stream rejection final)
    (plain : ∀ demand ∈ demands, demand.closesBlock = false) (inTokens : InTokens tokens stream) :
    StaysInside stream final := by
  induction fails with
  | here _ => exact .refl _
  | token same _ ih =>
      have notBrace := plain _ List.mem_cons_self
      refine (StaysInside.one ?_ _ _ _).trans (ih (fun demand inside => plain demand
        (List.mem_cons_of_mem _ inside)) (inTokens.moves (.one _ _ _ _)))
      rintro isBrace
      rw [← same, isBrace] at notBrace
      cases notBrace
  | expression _ ih =>
      exact (inTokens.behindExpression nested).trans (ih (fun demand inside => plain demand
        (List.mem_cons_of_mem _ inside)) (inTokens.moves (.moveOver _ _)))

end Inside

/-! ## Statements inside a block -/

section Statements

variable {tokens : List Token}

/-- Behind an abandoned item, recovery leaves the block only with a lost brace. -/
theorem ReadsItem.staysInside_recovered {levels : Nat} {start final : TokenStream}
    {reading : ParseTree} (reads : ReadsItem levels start reading final)
    (inTokens : InTokens tokens start) (goesOn : blockStops start = false)
    (inside : StaysInside start final)
    (noneLost : ∀ rejection ∈ reading.rejection?, ¬ rejection.LosesBrace tokens) :
    StaysInside start (final.recovered start reading.rejection?) := by
  cases abandoned : reading.rejection? with
  | none => exact inside
  | some rejection =>
      have resumes : StaysInside start (final.resumedAfter rejection.fault) := by
        rcases reads.abandoned abandoned with tooDeep | ⟨kind, context, rfl⟩
        · rw [TokenStream.resumedAfter, tooDeep]
          exact inside
        · have inFront := discarded_prefix final.consumed.head? final.rest
          refine inside.trans (.moveOver inFront ?_)
          obtain ⟨front, _ | ⟨found, behind⟩, stop⟩ := final
          · exact .nil
          · refine Decidable.not_not.mp fun lost => noneLost _ abandoned ⟨⟨kind, context, rfl⟩,
              front.reverse, behind, (inTokens.moves reads.moves).symm, ?_⟩
            rw [List.getLast?_reverse]
            exact lost
      rw [TokenStream.recovered_some]
      split
      · -- Nothing was discarded, so that the step goes over the first token of the item.
        rename_i stays
        obtain ⟨run, rest, split, same, keeps⟩ := resumes
        have empty : run = [] := by
          rw [same] at stays
          simpa [TokenStream.position] using stays
        subst empty
        obtain ⟨front, _ | ⟨first, others⟩, stop⟩ := start
        · simp [blockStops, TokenStream.atEnd] at goesOn
        · have notBrace : first.kind ≠ .operator .rightBrace := by
            simpa [blockStops, TokenStream.startsWith, TokenStream.atEnd] using goesOn
          obtain rfl : first :: others = rest := split
          rw [same]
          exact .one notBrace front others stop
      · exact resumes

/-- A keyword and an expression in parentheses keep the braces around them. -/
theorem TokenStream.InTokens.heading {front expression rest : List Token}
    {keyword opening closing stop : Token} {word : Keyword} (nested : WellNested tokens)
    (inTokens : InTokens tokens
      ⟨front, keyword :: opening :: (expression ++ closing :: rest), stop⟩)
    (isKeyword : keyword.kind = .keyword word) (isOpening : opening.kind = .operator .leftParen)
    (isExpression : IsExpression expression)
    (isClosing : closing.kind = .operator .rightParen) :
    StaysInside ⟨front, keyword :: opening :: (expression ++ closing :: rest), stop⟩
      ⟨closing :: (expression.reverse ++ opening :: keyword :: front), rest, stop⟩ := by
  have behind := inTokens.moves (.trans (.one _ _ _ _) (.one _ _ _ _))
  have keeps := behind.keepsBraces nested isExpression
    (by simp [isClosing, TokenKind.endsExpression])
  refine ⟨keyword :: opening :: (expression ++ [closing]), rest, by simp, by simp, ?_⟩
  exact .cons (by simp [isKeyword]) (.cons (by simp [isOpening])
    (keeps.append (.one (by simp [isClosing]))))

mutual
/-- **A statement in well-nested tokens stays inside the block around it**, unless recovery inside
it loses a brace. -/
theorem Reads.staysInside (nested : WellNested tokens) : ∀ {levels : Nat}
    {stream final : TokenStream} {reading : ParseTree},
    Reads levels stream reading final → InTokens tokens stream →
    (∀ rejection ∈ reading.recorded, ¬ rejection.LosesBrace tokens) → StaysInside stream final
  | _, stream, _, _, .tooDeep, _, _ => by
      have inFront := skipped_prefix 0 stream.rest
      exact .moveOver inFront (keepsBraces_skipped stream.rest)
  | _, _, _, _, @Reads.read _ _ rest keyword opening name closing semicolon _
      isKeyword isOpening isName isClosing isSemicolon, _, _ => by
      refine ⟨[keyword, opening, name, closing, semicolon], rest, rfl, rfl, ?_⟩
      exact .cons (by simp [isKeyword]) (.cons (by simp [isOpening]) (.cons (by simp [isName])
        (.cons (by simp [isClosing]) (.one (by simp [isSemicolon])))))
  | _, _, _, _, .write isKeyword isOpening isExpression isClosing isSemicolon, inTokens, _ =>
      (inTokens.heading nested isKeyword isOpening isExpression isClosing).trans
        (.one (by simp [isSemicolon]) _ _ _)
  | _, _, _, _, .ifThen isKeyword isOpening isExpression isClosing isThen consequence _,
      inTokens, noneLost => by
      have heading := (inTokens.heading nested isKeyword isOpening isExpression isClosing).trans
        (.one (by simp [isThen]) _ _ _)
      exact heading.trans (consequence.staysInside nested (inTokens.moves heading.moves) noneLost)
  | _, _, _, _, .ifThenElse isKeyword isOpening isExpression isClosing isThen consequence _ isElse
      alternative, inTokens, noneLost => by
      have heading := (inTokens.heading nested isKeyword isOpening isExpression isClosing).trans
        (.one (by simp [isThen]) _ _ _)
      have first := heading.trans ((consequence.staysInside nested (inTokens.moves heading.moves)
        fun rejection inside => noneLost rejection (List.mem_append_left _ inside)).trans
        (.one (by simp [isElse]) _ _ _))
      exact first.trans (alternative.staysInside nested (inTokens.moves first.moves)
        fun rejection inside => noneLost rejection (List.mem_append_right _ inside))
  | _, _, _, _, .loop isKeyword isOpening isExpression isClosing block, inTokens, noneLost => by
      have heading := inTokens.heading nested isKeyword isOpening isExpression isClosing
      exact heading.trans (block.staysInside nested (inTokens.moves heading.moves) noneLost)
  | _, _, _, _, .block block, inTokens, noneLost => block.staysInside nested inTokens noneLost
  | _, _, _, _, @Reads.expression _ _ expression rest semicolon _ isExpression isSemicolon _,
      inTokens, _ => by
      have keeps := inTokens.keepsBraces nested isExpression
        (by simp [isSemicolon, TokenKind.endsExpression])
      exact ⟨expression ++ [semicolon], rest, by simp, by simp,
        keeps.append (.one (by simp [isSemicolon]))⟩
  | _, _, _, _, .keywordFails isKeyword fails, inTokens, _ =>
      (StaysInside.one (by simp [isKeyword]) _ _ _).trans (fails.staysInside nested
        (Keyword.demands_closesBlock _) (inTokens.moves (.one _ _ _ _)))
  | _, _, _, _, .expressionFails _ fails, inTokens, _ =>
      fails.staysInside nested (by decide) inTokens

/-- A block stays inside the block around it. -/
theorem ReadsBlock.staysInside (nested : WellNested tokens) : ∀ {levels : Nat}
    {stream final : TokenStream} {reading : ParseTree},
    ReadsBlock levels stream reading final → InTokens tokens stream →
    (∀ rejection ∈ reading.recorded, ¬ rejection.LosesBrace tokens) → StaysInside stream final
  | _, _, _, _, @ReadsBlock.closed _ _ _ _ rest opening closing _ _ _ isOpening items isClosing,
      inTokens, noneLost => by
      obtain ⟨run, behind, split, same, keeps⟩ := items.staysInside nested
        (inTokens.moves (.one _ _ _ _)) fun rejection inside =>
          noneLost rejection (List.mem_append_left _ inside)
      cases same
      cases split
      exact ⟨opening :: (run ++ [closing]), rest, by simp, by simp,
        keeps.of_block isOpening isClosing⟩
  | _, _, _, _, .unclosed isOpening items, inTokens, noneLost =>
      (StaysInside.one (by simp [isOpening]) _ _ _).trans (items.staysInside nested
        (inTokens.moves (.one _ _ _ _)) fun rejection inside =>
          noneLost rejection (List.mem_append_left _ inside))

theorem ReadsItem.staysInside (nested : WellNested tokens) : ∀ {levels : Nat}
    {stream final : TokenStream} {reading : ParseTree},
    ReadsItem levels stream reading final → InTokens tokens stream →
    (∀ rejection ∈ reading.recorded, ¬ rejection.LosesBrace tokens) → StaysInside stream final
  | _, _, _, _, @ReadsItem.declaration _ _ rest typeToken name semicolon _ _ isType _ isName
      isSemicolon, _, _ => by
      refine ⟨[typeToken, name, semicolon], rest, rfl, rfl, ?_⟩
      exact .cons (TokenKind.ne_operator_of_isTypeName isType _) (.cons (by simp [isName])
        (.one (by simp [isSemicolon])))
  | _, _, _, _, @ReadsItem.initialized _ _ initial rest typeToken name sign semicolon _ _ isType _
      isName isSign isExpression isSemicolon, inTokens, _ => by
      have there := inTokens.moves (.trans (.one _ _ _ _) (.trans (.one _ _ _ _) (.one _ _ _ _)))
      have keeps := there.keepsBraces nested isExpression
        (by simp [isSemicolon, TokenKind.endsExpression])
      refine ⟨typeToken :: name :: sign :: (initial ++ [semicolon]), rest, by simp, by simp, ?_⟩
      exact .cons (TokenKind.ne_operator_of_isTypeName isType _) (.cons (by simp [isName])
        (.cons (by simp [isSign]) (keeps.append (.one (by simp [isSemicolon])))))
  | _, _, _, _, .nameless isType _ fails, inTokens, _ =>
      (StaysInside.one (TokenKind.ne_operator_of_isTypeName isType _) _ _ _).trans
        (fails.staysInside nested (by decide) (inTokens.moves (.one _ _ _ _)))
  | _, _, _, _, .unended isType _ isName _ fails, inTokens, _ => by
      refine (StaysInside.one (TokenKind.ne_operator_of_isTypeName isType _) _ _ _).trans ?_
      refine (StaysInside.one (by simp [isName]) _ _ _).trans ?_
      exact fails.staysInside nested (by decide) (inTokens.moves ⟨[_, _], _, rfl, rfl⟩)
  | _, _, _, _, .unendedInitial isType _ isName isSign fails, inTokens, _ => by
      refine (StaysInside.one (TokenKind.ne_operator_of_isTypeName isType _) _ _ _).trans ?_
      refine (StaysInside.one (by simp [isName]) _ _ _).trans ?_
      refine (StaysInside.one (by simp [isSign]) _ _ _).trans ?_
      exact fails.staysInside nested (by decide) (inTokens.moves ⟨[_, _, _], _, rfl, rfl⟩)
  | _, _, _, _, .statement _ statement, inTokens, noneLost =>
      statement.staysInside nested inTokens noneLost

/-- **The items of a block stay inside it**, unless recovery among them loses a brace. -/
theorem ReadsItems.staysInside (nested : WellNested tokens) : ∀ {levels : Nat}
    {stream final : TokenStream} {readings : List ParseTree},
    ReadsItems blockStops levels stream readings final →
    InTokens tokens stream →
    (∀ rejection ∈ ParseTree.recordedAll readings, ¬ rejection.LosesBrace tokens) →
    StaysInside stream final
  | _, _, _, _, .done _, _, _ => .refl _
  | _, _, _, _, .next goesOn item others, inTokens, noneLost => by
      have first := item.staysInside_recovered inTokens goesOn
        (item.staysInside nested inTokens fun rejection inside => noneLost rejection
          (List.mem_append_left _ (List.mem_append_left _ inside)))
        fun rejection inside => noneLost rejection
          (List.mem_append_left _ (List.mem_append_right _ (Option.mem_toList.mpr inside)))
      have behind := others.staysInside nested (inTokens.moves first.moves)
        fun rejection inside => noneLost rejection (List.mem_append_right _ inside)
      exact first.trans behind
end

/-! ## Unclosed blocks -/

/-- The end of the input inside a block shows that a brace was lost there. -/
theorem ReadsItems.exists_lost (nested : WellNested tokens) {levels : Nat}
    {front body front' : List Token} {opening stop stop' : Token} {items : List ParseTree}
    (inTokens : InTokens tokens ⟨front, opening :: body, stop⟩)
    (isOpening : opening.kind = .operator .leftBrace)
    (reads : ReadsItems blockStops levels ⟨opening :: front, body, stop⟩ items
      ⟨front', [], stop'⟩) :
    ∃ rejection ∈ ParseTree.recordedAll items, rejection.LosesBrace tokens := by
  refine Classical.byContradiction fun none => ?_
  have noneLost : ∀ rejection ∈ ParseTree.recordedAll items, ¬ rejection.LosesBrace tokens :=
    fun rejection inside lost => none ⟨rejection, inside, lost⟩
  obtain ⟨run, rest, split, same, keeps⟩ :=
    reads.staysInside nested (inTokens.moves (.one _ _ _ _)) noneLost
  cases same
  -- All tokens behind the opening brace were read, and they close no more than they open.
  obtain rfl : body = run := split.trans (List.append_nil run)
  obtain ⟨outside, fits⟩ := inTokens.closesAll nested
  have accounts := count_bracketsBehind fits
  simp only [List.count_nil, closedBraces, openedBraces, List.countP_cons, isOpening] at accounts
  unfold KeepsBraces closedBraces openedBraces at keeps
  simp at accounts
  omega

mutual
theorem Reads.explained (nested : WellNested tokens) : ∀ {levels : Nat}
    {stream final : TokenStream} {reading : ParseTree},
    Reads levels stream reading final → InTokens tokens stream → Explained tokens reading.recorded
  | _, _, _, _, .tooDeep, _ => .nil
  | _, _, _, _, .read .., _ => .nil
  | _, _, _, _, .write .., _ => .nil
  | _, _, _, _, .expression .., _ => .nil
  | _, _, _, _, .keywordFails .., _ => .nil
  | _, _, _, _, .expressionFails .., _ => .nil
  | _, _, _, _, .ifThen isKeyword isOpening isExpression isClosing isThen consequence _,
      inTokens => by
      have heading := (inTokens.heading nested isKeyword isOpening isExpression isClosing).trans
        (.one (by simp [isThen]) _ _ _)
      exact consequence.explained nested (inTokens.moves heading.moves)
  | _, _, _, _, .ifThenElse isKeyword isOpening isExpression isClosing isThen consequence _ _
      alternative, inTokens => by
      have heading := (inTokens.heading nested isKeyword isOpening isExpression isClosing).trans
        (.one (by simp [isThen]) _ _ _)
      have atConsequence := inTokens.moves heading.moves
      have atAlternative := (atConsequence.moves consequence.moves).moves (.one _ _ _ _)
      exact (consequence.explained nested atConsequence).append
        (alternative.explained nested atAlternative)
  | _, _, _, _, .loop isKeyword isOpening isExpression isClosing block, inTokens =>
      block.explained nested (inTokens.moves
        (inTokens.heading nested isKeyword isOpening isExpression isClosing).moves)
  | _, _, _, _, .block block, inTokens => block.explained nested inTokens

theorem ReadsBlock.explained (nested : WellNested tokens) : ∀ {levels : Nat}
    {stream final : TokenStream} {reading : ParseTree},
    ReadsBlock levels stream reading final → InTokens tokens stream →
    Explained tokens reading.recorded
  | _, _, _, _, .closed _ items _, inTokens =>
      (items.explained nested (inTokens.moves (.one _ _ _ _))).append .nil
  | _, _, _, _, .unclosed isOpening items, inTokens =>
      (items.explained nested (inTokens.moves (.one _ _ _ _))).concat
        (items.exists_lost nested inTokens isOpening)

theorem ReadsItem.explained (nested : WellNested tokens) : ∀ {levels : Nat}
    {stream final : TokenStream} {reading : ParseTree},
    ReadsItem levels stream reading final → InTokens tokens stream →
    Explained tokens reading.recorded
  | _, _, _, _, .declaration .., _ => .nil
  | _, _, _, _, .initialized .., _ => .nil
  | _, _, _, _, .nameless .., _ => .nil
  | _, _, _, _, .unended .., _ => .nil
  | _, _, _, _, .unendedInitial .., _ => .nil
  | _, _, _, _, .statement _ statement, inTokens => statement.explained nested inTokens

/-- **Every unclosed block comes behind a lost brace**, however its items are read. -/
theorem ReadsItems.explained (nested : WellNested tokens) : ∀ {stops : TokenStream → Bool}
    {levels : Nat} {stream final : TokenStream} {readings : List ParseTree},
    ReadsItems stops levels stream readings final → InTokens tokens stream →
    Explained tokens (ParseTree.recordedAll readings)
  | _, _, _, _, _, .done _, _ => .nil
  | _, _, _, _, _, .next _ item others, inTokens => by
      refine ((item.explained nested inTokens).append (.of_none ?_)).append (others.explained nested
        ((inTokens.moves item.moves).moves (TokenStream.moves_recovered _ _ _)))
      intro rejection inside
      exact item.not_isUnclosed (Option.mem_toList.mp inside)
end

end Statements

/-! ## Programs -/

namespace Rejection

variable {tokens : List Token} {rejection : Rejection}

/-- Only unclosed blocks have their code. -/
theorem isUnclosed_of_code (code : rejection.diagnostic.code = some "P004") :
    rejection.IsUnclosed := by
  obtain ⟨fault, found⟩ := rejection
  cases fault with
  | unclosedBlock opening => exact ⟨opening, rfl⟩
  | expected | tooDeep => simp [diagnostic, SyntaxFault.code] at code

theorem LosesBrace.code (loses : rejection.LosesBrace tokens) :
    rejection.diagnostic.code = some "P001" := by
  obtain ⟨fault, found⟩ := rejection
  obtain ⟨⟨kind, context, rfl⟩, -⟩ := loses
  rfl

end Rejection

/-- **A missing brace is reported only where recovery lost one.** In tokens whose parentheses and
braces are nested together, a report of an unclosed block comes behind one of an unexpected token.
The tokens that are discarded from that token on, up to the next boundary, close more braces than
they open. -/
theorem unclosed_behind_lostBrace {policy : RedeclarationPolicy} {tokens : List Token}
    {statements : List Statement} {state : ParseState} {before behind : List Diagnostic}
    {diagnostic : Diagnostic} (nested : WellNested (programTokens tokens))
    (run : program policy (.ofTokens tokens) = .ok statements state)
    (recorded : state.diagnostics.ofCategory .syntactic = before ++ diagnostic :: behind)
    (isUnclosed : diagnostic.code = some "P004") :
    ∃ earlier ∈ before, earlier.code = some "P001" ∧
      ∃ front found rest, programTokens tokens = front ++ found :: rest ∧
        earlier.location = found.location ∧
        openedBraces (discarded front.getLast? (found :: rest)) <
          closedBraces (discarded front.getLast? (found :: rest)) := by
  rw [ofTokens_eq_place] at run
  obtain ⟨readings, final, reads⟩ := exists_reads_of_program run
  cases run.symm.trans (program_of_reads reads policy 0 .nothing)
  have explained := ReadsItems.explained nested reads rfl
  have syntactic : (ParseTree.effectAll policy readings .nothing).2.syntactic =
      before ++ diagnostic :: behind := recorded
  rw [ParseTree.effectAll_syntactic] at syntactic
  obtain ⟨first, others, split, rfl, same⟩ := List.map_eq_append_iff.mp syntactic
  obtain ⟨rejection, last, rfl, rfl, -⟩ := List.map_eq_cons_iff.mp same
  obtain ⟨earlier, inside, loses⟩ :=
    explained first rejection last split (Rejection.isUnclosed_of_code isUnclosed)
  obtain ⟨front, rest, whole, lost⟩ := loses.2
  exact ⟨earlier.diagnostic, List.mem_map_of_mem inside, loses.code, front, earlier.found, rest,
    whole, rfl, Nat.lt_of_not_le lost⟩

/-- The tokens of `{ x }`. -/
def unendedBlockTokens : List Token :=
  [⟨.operator .leftBrace, "\x7b", none, ⟨"<string>", 1, 1, 0⟩⟩,
    ⟨.identifier, "x", none, ⟨"<string>", 1, 3, 2⟩⟩,
    ⟨.operator .rightBrace, "\x7d", none, ⟨"<string>", 1, 5, 4⟩⟩]

/-- In `{ x }` the missing semicolon is noticed at the closing brace, which is discarded, and
the block is reported as unclosed although its tokens are nested together. -/
theorem unclosed_in_wellNested :
    WellNested (programTokens unendedBlockTokens) ∧
      ∃ statements state, program {} (.ofTokens unendedBlockTokens) = .ok statements state ∧
        ∃ diagnostic ∈ state.diagnostics, diagnostic.code = some "P004" := by
  refine ⟨by decide, _, _, rfl, ?_⟩
  decide

/-- The unclosed block of `{ x }` comes behind an unexpected token whose recovery discards one
closing brace. -/
theorem unclosed_behind_lostBrace_unendedBlock :
    WellNested (programTokens unendedBlockTokens) ∧
      ∃ statements state before diagnostic,
        program {} (.ofTokens unendedBlockTokens) = .ok statements state ∧
        state.diagnostics.ofCategory .syntactic = before ++ [diagnostic] ∧
        diagnostic.code = some "P004" ∧
        ∃ earlier ∈ before, earlier.code = some "P001" ∧
          ∃ front found rest, programTokens unendedBlockTokens = front ++ found :: rest ∧
            earlier.location = found.location ∧
            openedBraces (discarded front.getLast? (found :: rest)) <
              closedBraces (discarded front.getLast? (found :: rest)) := by
  have nested : WellNested (programTokens unendedBlockTokens) := by decide
  obtain ⟨statements, state, before, diagnostic, run, recorded, isUnclosed⟩ :
      ∃ statements state before diagnostic,
        program {} (.ofTokens unendedBlockTokens) = .ok statements state ∧
          state.diagnostics.ofCategory .syntactic = before ++ [diagnostic] ∧
          diagnostic.code = some "P004" :=
    ⟨_, _, [_], _, rfl, rfl, rfl⟩
  exact ⟨nested, statements, state, before, diagnostic, run, recorded, isUnclosed,
    unclosed_behind_lostBrace nested run recorded isUnclosed⟩

end NumericLanguage
