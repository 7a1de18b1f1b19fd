import NumericLanguage.Proofs.Reading.Program

/-!
# Reading debris

Debris is a run of tokens without semicolons and braces in which every opening parenthesis is closed
later on. Whatever else it holds, an expression that is captured inside it ends inside it or at the
semicolon behind it. So every item that begins in debris is read or abandoned before that semicolon,
and the next one begins further on in the debris or exactly behind the semicolon
(`Debris.exists_readsItem`).
-/

set_option autoImplicit false

namespace NumericLanguage

/-! ## Debris -/

/-- Tokens without semicolons and braces that spell the types they stand for, and among which every
opening parenthesis has a later closing one of its own; there may be more closing ones. -/
structure Debris (tokens : List Token) : Prop where
  noSemicolon : ∀ token ∈ tokens, token.kind ≠ .operator .semicolon
  noLeftBrace : ∀ token ∈ tokens, token.kind ≠ .operator .leftBrace
  noRightBrace : ∀ token ∈ tokens, token.kind ≠ .operator .rightBrace
  matched : ∀ suffix, suffix <:+ tokens → openedParens suffix ≤ closedParens suffix
  spelled : ∀ token ∈ tokens, token.NamesType

namespace Debris

variable {debris remaining rest : List Token} {semicolon : Token}

/-- What remains of debris is debris. -/
theorem of_suffix (isDebris : Debris debris) (suffix : remaining <:+ debris) :
    Debris remaining where
  noSemicolon token inside := isDebris.noSemicolon token (suffix.subset inside)
  noLeftBrace token inside := isDebris.noLeftBrace token (suffix.subset inside)
  noRightBrace token inside := isDebris.noRightBrace token (suffix.subset inside)
  matched other behind := isDebris.matched other (behind.trans suffix)
  spelled token inside := isDebris.spelled token (suffix.subset inside)

end Debris

/-- With enough closing parentheses behind, what is captured ends in front of the semicolon. -/
theorem exists_captured {semicolon : Token} (isSemicolon : semicolon.kind = .operator .semicolon)
    (rest tokens : List Token) (depth : Nat)
    (enough : depth + openedParens tokens ≤ closedParens tokens) :
    ∃ run remaining, tokens = run ++ remaining ∧
      captured depth (tokens ++ semicolon :: rest) = run := by
  induction tokens generalizing depth with
  | nil =>
      have outside : depth = 0 := by simpa [openedParens, closedParens] using enough
      refine ⟨[], [], rfl, ?_⟩
      rw [List.nil_append, captured, if_pos ⟨outside, by rw [isSemicolon]; rfl⟩]
  | cons token tokens ih =>
      rw [List.cons_append, captured]
      split
      · exact ⟨[], token :: tokens, rfl, rfl⟩
      · rename_i goesOn
        have counted := depthBehind_add_closedParens goesOn
        have opens : openedParens (token :: tokens) = _ := openedParens_append [token] tokens
        have closes : closedParens (token :: tokens) = _ := closedParens_append [token] tokens
        have enoughBehind :
            depthBehind depth token.kind + openedParens tokens ≤ closedParens tokens := by
          omega
        obtain ⟨run, remaining, rfl, whole⟩ := ih _ enoughBehind
        exact ⟨token :: run, remaining, rfl, congrArg (token :: ·) whole⟩

/-- Debris is skipped with the semicolon behind it. -/
theorem Debris.skipped_append {debris : List Token} (isDebris : Debris debris) {semicolon : Token}
    (isSemicolon : semicolon.kind = .operator .semicolon) (rest : List Token) :
    skipped 0 (debris ++ semicolon :: rest) = debris ++ [semicolon] := by
  induction debris with
  | nil => simp [skipped, isSemicolon]
  | cons token debris ih =>
      have behind := ih (isDebris.of_suffix (List.suffix_cons token debris))
      rw [List.cons_append, skipped, if_neg (isDebris.noRightBrace token List.mem_cons_self),
        if_neg (isDebris.noSemicolon token List.mem_cons_self),
        if_neg (isDebris.noLeftBrace token List.mem_cons_self), behind]
      rfl

/-! ## Places in debris -/

/-- Whether a demand is one for a semicolon. -/
def Demand.asksSemicolon : Demand → Bool
  | .token (.operator .semicolon) _ => true
  | _ => false

theorem Demand.kind_ne {kind : TokenKind} {context : String}
    (plain : (Demand.token kind context).asksSemicolon = false) :
    kind ≠ .operator .semicolon := by
  rintro rfl
  cases plain

section Places

variable {debris rest : List Token} {semicolon : Token} {stream final : TokenStream}

/-- A place in debris, or right in front of the semicolon behind it. -/
def Inside (debris : List Token) (semicolon : Token) (rest : List Token) (stream : TokenStream) :
    Prop :=
  ∃ remaining, remaining <:+ debris ∧ stream.rest = remaining ++ semicolon :: rest

theorem Inside.peek_mem (inside : Inside debris semicolon rest stream) :
    stream.peek ∈ debris ++ [semicolon] := by
  obtain ⟨remaining, suffix, same⟩ := inside
  rw [TokenStream.peek, same]
  cases remaining with
  | nil => exact List.mem_append_right debris List.mem_cons_self
  | cons first others => exact List.mem_append_left _ (suffix.subset List.mem_cons_self)

/-- Behind a token that is no semicolon, the place is still in the debris. -/
theorem Inside.behind_token {front behind : List Token} {token stop : Token}
    (inside : Inside debris semicolon rest ⟨front, token :: behind, stop⟩)
    (other : token.kind ≠ semicolon.kind) :
    token ∈ debris ∧ ∀ front', Inside debris semicolon rest ⟨front', behind, stop⟩ := by
  obtain ⟨remaining, suffix, same⟩ := inside
  cases remaining with
  | nil =>
      cases same
      exact absurd rfl other
  | cons first others =>
      cases same
      exact ⟨suffix.subset List.mem_cons_self, fun _ =>
        ⟨others, (List.suffix_cons _ _).trans suffix, rfl⟩⟩

/-- The only semicolon at a place in debris is the one behind it. -/
theorem Inside.rest_of_semicolon {front behind : List Token} {token stop : Token}
    (isDebris : Debris debris)
    (inside : Inside debris semicolon rest ⟨front, token :: behind, stop⟩)
    (isSemicolon : token.kind = .operator .semicolon) : behind = rest := by
  obtain ⟨remaining, suffix, same⟩ := inside
  cases remaining with
  | nil =>
      cases same
      rfl
  | cons first others =>
      cases same
      exact absurd isSemicolon (isDebris.noSemicolon token (suffix.subset List.mem_cons_self))

variable (isDebris : Debris debris) (isSemicolon : semicolon.kind = .operator .semicolon)

include isDebris isSemicolon

theorem Inside.behindExpression (inside : Inside debris semicolon rest stream) :
    Inside debris semicolon rest stream.behindExpression := by
  obtain ⟨remaining, suffix, same⟩ := inside
  obtain ⟨run, later, rfl, whole⟩ := exists_captured isSemicolon rest remaining 0
    (by simpa using isDebris.matched remaining suffix)
  refine ⟨later, (List.suffix_append run later).trans suffix, ?_⟩
  rw [TokenStream.behindExpression, same, whole, TokenStream.moveOver]
  simp only [same, List.append_assoc, List.drop_left]

/-- As long as no semicolon is asked for, demands lead to places in the debris. -/
theorem Inside.of_meets {demands : List Demand} (inside : Inside debris semicolon rest stream)
    (plain : ∀ demand ∈ demands, demand.asksSemicolon = false)
    (meets : Meets demands stream final) : Inside debris semicolon rest final := by
  induction meets with
  | nil => exact inside
  | token same _ ih =>
      have other := Demand.kind_ne (plain _ List.mem_cons_self)
      have behind := (inside.behind_token (by rwa [same, isSemicolon])).2
      exact ih (behind _) fun demand later => plain demand (List.mem_cons_of_mem _ later)
  | expression _ ih =>
      exact ih (inside.behindExpression isDebris isSemicolon) fun demand later =>
        plain demand (List.mem_cons_of_mem _ later)

theorem Inside.of_fails {demands : List Demand} {rejection : Rejection}
    (inside : Inside debris semicolon rest stream)
    (plain : ∀ demand ∈ demands, demand.asksSemicolon = false)
    (fails : Fails demands stream rejection final) : Inside debris semicolon rest final := by
  induction fails with
  | here => exact inside
  | token same _ ih =>
      have other := Demand.kind_ne (plain _ List.mem_cons_self)
      have behind := (inside.behind_token (by rwa [same, isSemicolon])).2
      exact ih (behind _) fun demand later => plain demand (List.mem_cons_of_mem _ later)
  | expression _ ih =>
      exact ih (inside.behindExpression isDebris isSemicolon) fun demand later =>
        plain demand (List.mem_cons_of_mem _ later)

/-- Where the last demand of a rule is not met, the place is in the debris. -/
theorem Inside.of_fails_last {demands : List Demand} {kind : TokenKind} {context : String}
    {rejection : Rejection} (inside : Inside debris semicolon rest stream)
    (plain : ∀ demand ∈ demands, demand.asksSemicolon = false)
    (fails : Fails (demands ++ [.token kind context]) stream rejection final) :
    Inside debris semicolon rest final := by
  rcases fails.inFront_or_behind with inFront | ⟨middle, meets, behind⟩
  · exact inside.of_fails isDebris isSemicolon plain inFront
  · cases behind with
    | here => exact inside.of_meets isDebris isSemicolon plain meets
    | token _ fails => nomatch fails

/-- Demands that end with one for a semicolon are met right behind the debris. -/
theorem Inside.rest_of_meets {demands : List Demand} {context : String}
    (inside : Inside debris semicolon rest stream)
    (plain : ∀ demand ∈ demands, demand.asksSemicolon = false)
    (meets : Meets (demands ++ [.token (.operator .semicolon) context]) stream final) :
    final.rest = rest := by
  obtain ⟨middle, first, last⟩ := meets.exists_between
  have there := inside.of_meets isDebris isSemicolon plain first
  cases last with
  | token same meets =>
      cases meets
      exact there.rest_of_semicolon isDebris same

end Places

/-! ## Going on in debris -/

section Resuming

variable {debris rest : List Token} {semicolon : Token} {stream : TokenStream}

/-- What recovery discards of debris ends in the debris or right behind the semicolon. -/
theorem drop_discarded (isSemicolon : semicolon.kind = .operator .semicolon)
    (remaining : List Token) (previous : Option Token) :
    (∃ later, later <:+ remaining ∧
      (remaining ++ semicolon :: rest).drop
          (discarded previous (remaining ++ semicolon :: rest)).length =
        later ++ semicolon :: rest) ∨
    (remaining ++ semicolon :: rest).drop
      (discarded previous (remaining ++ semicolon :: rest)).length = rest := by
  induction remaining generalizing previous with
  | nil =>
      rw [List.nil_append, discarded]
      split
      · exact .inl ⟨[], List.suffix_rfl, rfl⟩
      · right
        have stops : discarded (some semicolon) rest = [] := by
          cases rest with
          | nil => rfl
          | cons next behind =>
              rw [discarded, if_pos]
              simp [isBoundary, isSemicolon]
        rw [stops]
        rfl
  | cons token remaining ih =>
      rw [List.cons_append, discarded]
      split
      · exact .inl ⟨token :: remaining, List.suffix_rfl, rfl⟩
      · rcases ih (some token) with ⟨later, suffix, same⟩ | same
        · exact .inl ⟨later, suffix.trans (List.suffix_cons _ _), same⟩
        · exact .inr same

/-- Recovery in debris ends in the debris or right behind the semicolon. -/
theorem Inside.resumed (isSemicolon : semicolon.kind = .operator .semicolon)
    (inside : Inside debris semicolon rest stream) :
    Inside debris semicolon rest stream.resumed ∨ stream.resumed.rest = rest := by
  obtain ⟨remaining, suffix, same⟩ := inside
  rw [TokenStream.resumed, same]
  rcases drop_discarded isSemicolon remaining stream.consumed.head? with
    ⟨later, behind, split⟩ | split
  · exact .inl ⟨later, behind.trans suffix, by rw [TokenStream.moveOver, same, split]⟩
  · exact .inr (by rw [TokenStream.moveOver, same, split])

theorem Inside.resumedAfter (isSemicolon : semicolon.kind = .operator .semicolon)
    (inside : Inside debris semicolon rest stream) (fault : SyntaxFault) :
    Inside debris semicolon rest (stream.resumedAfter fault) ∨
      (stream.resumedAfter fault).rest = rest := by
  unfold TokenStream.resumedAfter
  split
  · exact inside.resumed isSemicolon
  · exact .inl inside

theorem Inside.moveOver_one (inside : Inside debris semicolon rest stream) :
    Inside debris semicolon rest (stream.moveOver 1) ∨ (stream.moveOver 1).rest = rest := by
  obtain ⟨remaining, suffix, same⟩ := inside
  cases remaining with
  | nil => exact .inr (by rw [TokenStream.moveOver, same]; rfl)
  | cons first others =>
      exact .inl ⟨others, (List.suffix_cons _ _).trans suffix, by
        rw [TokenStream.moveOver, same]; rfl⟩

end Resuming

/-! ## Items that begin in debris -/

/-- What becomes of an item that begins in debris: nothing is recorded inside it, it is abandoned
at a token of the debris or at the semicolon if it is, and it ends right behind the semicolon,
unless it was abandoned before. -/
structure Contained (debris : List Token) (semicolon : Token) (rest : List Token)
    (tree : ParseTree) (final : TokenStream) : Prop where
  silent : tree.recorded = []
  located : ∀ rejection ∈ tree.rejection?, rejection.found ∈ debris ++ [semicolon]
  ends :
    (final.rest = rest ∧
      ∀ rejection ∈ tree.rejection?, rejection.fault.needsRecovery = false) ∨
    (Inside debris semicolon rest final ∧ tree.rejection? ≠ none)

section Statements

variable {debris rest : List Token} {semicolon : Token} {stream final : TokenStream}
  {tree : ParseTree}

theorem Contained.of_complete (silent : tree.recorded = []) (complete : tree.rejection? = none)
    (ended : final.rest = rest) : Contained debris semicolon rest tree final where
  silent := silent
  located := by simp [complete]
  ends := .inl ⟨ended, by simp [complete]⟩

/-- A demand that is not met is contained, if the place where it is not met is. -/
theorem Contained.of_fails {demands : List Demand} {rejection : Rejection}
    (fails : Fails demands stream rejection final) (silent : tree.recorded = [])
    (abandoned : tree.rejection? = some rejection) (inside : Inside debris semicolon rest final) :
    Contained debris semicolon rest tree final where
  silent := silent
  located := by
    obtain ⟨kind, context, same, -⟩ := fails.exists_expected
    intro other isRejection
    cases abandoned.symm.trans isRejection
    rw [same]
    exact inside.peek_mem
  ends := .inr ⟨inside, by simp [abandoned]⟩

/-- The demands of a keyword ask for a semicolon at most at their end. -/
theorem Keyword.exists_last_demand {word : Keyword}
    (selects : (TokenKind.keyword word).selectsStatement = true) :
    ∃ demands kind context, word.demands = demands ++ [.token kind context] ∧
      ∀ demand ∈ demands, demand.asksSemicolon = false := by
  cases word with
  | readWord => exact ⟨readWord.demands.dropLast, _, _, rfl, by decide⟩
  | writeWord => exact ⟨writeWord.demands.dropLast, _, _, rfl, by decide⟩
  | ifWord => exact ⟨ifWord.demands.dropLast, _, _, rfl, by decide⟩
  | whileWord => exact ⟨whileWord.demands.dropLast, _, _, rfl, by decide⟩
  | _ => cases selects

variable (isDebris : Debris debris) (isSemicolon : semicolon.kind = .operator .semicolon)
  (noElse : ∀ next ∈ rest.head?, next.kind ≠ .keyword .elseWord)

include isDebris isSemicolon

/-- A statement that begins in debris with neither a keyword nor a brace is contained. -/
theorem Inside.exists_expression {levels : Nat} (inside : Inside debris semicolon rest stream)
    (other : ∀ first ∈ stream.rest.head?, first.kind.selectsStatement = false) :
    ∃ tree final, Reads (levels + 1) stream tree final ∧
      Contained debris semicolon rest tree final := by
  have plain : ∀ demand ∈ [Demand.expression], demand.asksSemicolon = false := by decide
  rcases meets_or_fails expressionDemands stream with ⟨final, meets⟩ | ⟨rejection, final, fails⟩
  · have ended := inside.rest_of_meets isDebris isSemicolon plain meets
    obtain ⟨tokens, last, behind, split, isExpression, isLast, meets⟩ := meets.exists_expression
    obtain ⟨front, input, stop⟩ := stream
    cases split
    cases meets
    refine ⟨.expression tokens last, _, .expression isExpression isLast ?_,
      .of_complete rfl rfl ended⟩
    cases tokens with
    | nil => exact other last rfl
    | cons first others => exact other first rfl
  · exact ⟨.rejected rejection, final, .expressionFails other fails,
      .of_fails fails rfl rfl (inside.of_fails_last isDebris isSemicolon plain fails)⟩

/-- A declaration that begins in debris is contained. -/
theorem Inside.exists_declaration {levels : Nat} {front others : List Token}
    {typeToken stop : Token} {type : ValueType} (isType : typeToken.kind.isTypeName = true)
    (names : ValueType.ofWord typeToken.lexeme = .ok type)
    (inside : Inside debris semicolon rest ⟨typeToken :: front, others, stop⟩) :
    ∃ tree final, ReadsItem levels ⟨front, typeToken :: others, stop⟩ tree final ∧
      Contained debris semicolon rest tree final := by
  rcases meets_or_fails [.token .identifier "after the type"] ⟨typeToken :: front, others, stop⟩
    with ⟨final, meets⟩ | ⟨rejection, final, fails⟩
  · obtain ⟨name, others, rfl, isName, -⟩ := meets.exists_token
    have behindName := (inside.behind_token (by rw [isName, isSemicolon]; decide)).2
    rcases head_ne_or_exists_head (.operator .assign) others with
      noSign | ⟨sign, others, rfl, isSign⟩
    · have there := behindName (name :: typeToken :: front)
      have plain : ∀ demand ∈ ([] : List Demand), demand.asksSemicolon = false := by decide
      rcases meets_or_fails [.token (.operator .semicolon) "after the declaration"]
        ⟨name :: typeToken :: front, others, stop⟩ with ⟨final, meets⟩ | ⟨rejection, final, fails⟩
      · have ended := there.rest_of_meets isDebris isSemicolon plain meets
        obtain ⟨last, others, rfl, isLast, meets⟩ := meets.exists_token
        cases meets
        exact ⟨_, _, .declaration isType names isName isLast, .of_complete rfl rfl ended⟩
      · exact ⟨_, _, .unended isType names isName noSign fails, .of_fails fails rfl rfl
          (there.of_fails_last isDebris isSemicolon plain fails)⟩
    · have there := ((behindName front).behind_token (by rw [isSign, isSemicolon]; decide)).2
        (sign :: name :: typeToken :: front)
      have plain : ∀ demand ∈ [Demand.expression], demand.asksSemicolon = false := by decide
      rcases meets_or_fails [.expression, .token (.operator .semicolon) "after the declaration"]
        ⟨sign :: name :: typeToken :: front, others, stop⟩ with
        ⟨final, meets⟩ | ⟨rejection, final, fails⟩
      · have ended := there.rest_of_meets isDebris isSemicolon plain meets
        obtain ⟨initial, last, others, rfl, isExpression, isLast, meets⟩ :=
          meets.exists_expression
        cases meets
        exact ⟨_, _, .initialized isType names isName isSign isExpression isLast,
          .of_complete rfl rfl ended⟩
      · exact ⟨_, _, .unendedInitial isType names isName isSign fails, .of_fails fails rfl rfl
          (there.of_fails_last isDebris isSemicolon plain fails)⟩
  · exact ⟨_, _, .nameless isType names fails, .of_fails fails rfl rfl
      (inside.of_fails isDebris isSemicolon (by decide) fails)⟩

include noElse

/-- A conditional whose consequence begins in debris is contained, if the consequence is. -/
theorem Inside.exists_conditional {levels : Nat}
    (ih : ∀ stream, Inside debris semicolon rest stream →
      ∃ tree final, Reads levels stream tree final ∧ Contained debris semicolon rest tree final)
    {front others : List Token} {keyword stop : Token}
    (inside : Inside debris semicolon rest ⟨keyword :: front, others, stop⟩)
    (isKeyword : keyword.kind = .keyword .ifWord)
    (meets : Meets Keyword.ifWord.demands ⟨keyword :: front, others, stop⟩ final) :
    ∃ tree final, Reads (levels + 1) ⟨front, keyword :: others, stop⟩ tree final ∧
      Contained debris semicolon rest tree final := by
  have plain : ∀ demand ∈ Keyword.ifWord.demands, demand.asksSemicolon = false := by decide
  have there := inside.of_meets isDebris isSemicolon plain meets
  obtain ⟨opening, others, rfl, isOpening, meets⟩ := meets.exists_token
  obtain ⟨condition, closing, others, rfl, isExpression, isClosing, meets⟩ :=
    meets.exists_expression
  obtain ⟨thenToken, others, rfl, isThen, meets⟩ := meets.exists_token
  cases meets
  obtain ⟨consequence, final, reads, contained⟩ := ih _ there
  -- A complete consequence ends behind the semicolon, where no `else` follows.
  have alone : consequence.rejection? = none →
      ∀ next ∈ final.rest.head?, next.kind ≠ .keyword .elseWord := by
    intro complete
    rcases contained.ends with ⟨ended, -⟩ | ⟨-, abandoned⟩
    · rwa [ended]
    · exact absurd complete abandoned
  refine ⟨_, final, .ifThen isKeyword isOpening isExpression isClosing isThen reads alone, ?_⟩
  exact ⟨contained.silent, by simpa using contained.located, by simpa using contained.ends⟩

/-- A statement that begins in debris with a keyword is contained, if those inside it are. -/
theorem Inside.exists_keyword {levels : Nat}
    (ih : ∀ stream, Inside debris semicolon rest stream →
      ∃ tree final, Reads levels stream tree final ∧ Contained debris semicolon rest tree final)
    {front others : List Token} {keyword stop : Token} {word : Keyword}
    (inside : Inside debris semicolon rest ⟨keyword :: front, others, stop⟩)
    (isKeyword : keyword.kind = .keyword word)
    (selects : (TokenKind.keyword word).selectsStatement = true) :
    ∃ tree final, Reads (levels + 1) ⟨front, keyword :: others, stop⟩ tree final ∧
      Contained debris semicolon rest tree final := by
  rcases meets_or_fails word.demands ⟨keyword :: front, others, stop⟩ with
    ⟨final, meets⟩ | ⟨rejection, final, fails⟩
  · cases word with
    | readWord =>
        have plain : ∀ demand ∈ Keyword.readWord.demands.dropLast,
            demand.asksSemicolon = false := by decide
        have ended := inside.rest_of_meets isDebris isSemicolon plain meets
        obtain ⟨opening, others, rfl, isOpening, meets⟩ := meets.exists_token
        obtain ⟨name, others, rfl, isName, meets⟩ := meets.exists_token
        obtain ⟨closing, others, rfl, isClosing, meets⟩ := meets.exists_token
        obtain ⟨last, others, rfl, isLast, meets⟩ := meets.exists_token
        cases meets
        exact ⟨_, _, .read isKeyword isOpening isName isClosing isLast,
          .of_complete rfl rfl ended⟩
    | writeWord =>
        have plain : ∀ demand ∈ Keyword.writeWord.demands.dropLast,
            demand.asksSemicolon = false := by decide
        have ended := inside.rest_of_meets isDebris isSemicolon plain meets
        obtain ⟨opening, others, rfl, isOpening, meets⟩ := meets.exists_token
        obtain ⟨expression, closing, others, rfl, isExpression, isClosing, meets⟩ :=
          meets.exists_expression
        obtain ⟨last, others, rfl, isLast, meets⟩ := meets.exists_token
        cases meets
        exact ⟨_, _, .write isKeyword isOpening isExpression isClosing isLast,
          .of_complete rfl rfl ended⟩
    | ifWord =>
        exact inside.exists_conditional isDebris isSemicolon noElse ih isKeyword meets
    | whileWord =>
        have plain : ∀ demand ∈ Keyword.whileWord.demands.dropLast,
            demand.asksSemicolon = false := by decide
        have meets : Meets (Keyword.whileWord.demands.dropLast ++
            [.token (.operator .leftBrace) "to start the while body"]) _ final := meets
        obtain ⟨middle, first, last⟩ := meets.exists_between
        have there := inside.of_meets isDebris isSemicolon plain first
        cases last with
        | token isBrace _ =>
            have inDebris := (there.behind_token (by rw [isBrace, isSemicolon]; decide)).1
            exact absurd isBrace (isDebris.noLeftBrace _ inDebris)
    | _ => cases selects
  · obtain ⟨demands, kind, context, same, plain⟩ := Keyword.exists_last_demand selects
    have last := inside.of_fails_last isDebris isSemicolon plain (same ▸ fails)
    exact ⟨.rejected rejection, final, .keywordFails isKeyword fails, .of_fails fails rfl rfl last⟩

/-- **A statement that begins in debris is contained.** -/
theorem Inside.exists_reads (levels : Nat) : ∀ stream, Inside debris semicolon rest stream →
    ∃ tree final, Reads levels stream tree final ∧ Contained debris semicolon rest tree final := by
  induction levels with
  | zero =>
      intro stream inside
      refine ⟨_, _, .tooDeep, ⟨rfl, ?_, ?_⟩⟩
      · intro rejection same
        cases same
        exact inside.peek_mem
      · obtain ⟨remaining, suffix, same⟩ := inside
        refine .inl ⟨?_, fun rejection other => ?_⟩
        · change stream.rest.drop (skipped 0 stream.rest).length = rest
          rw [same, (isDebris.of_suffix suffix).skipped_append isSemicolon,
            List.append_cons remaining semicolon rest, List.drop_left]
        · cases other
          rfl
  | succ levels ih =>
      intro stream inside
      by_cases other : ∀ first ∈ stream.rest.head?, first.kind.selectsStatement = false
      · exact inside.exists_expression isDebris isSemicolon other
      · obtain ⟨front, _ | ⟨first, others⟩, stop⟩ := stream
        · exact absurd (by simp) other
        · have selects : first.kind.selectsStatement = true := by simpa using other
          have notSemicolon : first.kind ≠ semicolon.kind := by
            intro same
            rw [same, isSemicolon] at selects
            cases selects
          obtain ⟨inDebris, behind⟩ := inside.behind_token notSemicolon
          rcases first_kind : first.kind with _ | _ | _ | _ | _ | word | sign
          case keyword =>
            rw [first_kind] at selects
            exact (behind _).exists_keyword isDebris isSemicolon noElse ih first_kind selects
          case operator =>
            have isBrace : first.kind = .operator .leftBrace := by
              rw [first_kind] at selects ⊢
              cases sign <;> first | rfl | cases selects
            exact absurd isBrace (isDebris.noLeftBrace first inDebris)
          all_goals
            rw [first_kind] at selects
            cases selects

/-- **An item that begins in debris is contained.** -/
theorem Inside.exists_readsItem (levels : Nat) (inside : Inside debris semicolon rest stream) :
    ∃ tree final, ReadsItem levels stream tree final ∧
      Contained debris semicolon rest tree final := by
  by_cases notType : ∀ first ∈ stream.rest.head?, first.kind.isTypeName = false
  · obtain ⟨tree, final, reads, contained⟩ :=
      Inside.exists_reads isDebris isSemicolon noElse levels stream inside
    exact ⟨tree, final, .statement notType reads, contained⟩
  · obtain ⟨front, _ | ⟨first, others⟩, stop⟩ := stream
    · exact absurd (by simp) notType
    · have isType : first.kind.isTypeName = true := by simpa using notType
      have notSemicolon : first.kind ≠ semicolon.kind := by
        intro same
        rw [same, isSemicolon] at isType
        cases isType
      obtain ⟨inDebris, behind⟩ := inside.behind_token notSemicolon
      obtain ⟨type, names⟩ := isDebris.spelled first inDebris isType
      exact (behind _).exists_declaration isDebris isSemicolon isType names

omit isDebris noElse in
/-- Behind an item that begins in debris, the next one begins further on in the debris or right
behind the semicolon. -/
theorem Contained.recovered (contained : Contained debris semicolon rest tree final)
    (start : TokenStream) (begins : start.rest = debris ++ semicolon :: rest)
    (moves : start.Moves final) :
    Inside debris semicolon rest (final.recovered start tree.rejection?) ∨
      (final.recovered start tree.rejection?).rest = rest := by
  cases abandoned : tree.rejection? with
  | none =>
      rcases contained.ends with ⟨ended, -⟩ | ⟨-, other⟩
      · exact .inr ended
      · exact absurd abandoned other
  | some rejection =>
      -- A place behind the semicolon is not the place where the item began.
      have further {stream : TokenStream} (later : start.Moves stream)
          (ended : stream.rest = rest) : stream.position ≠ start.position := by
        have size := later.position_eq
        rw [begins, ended, List.length_append, List.length_cons] at size
        omega
      have resumes := moves.trans (final.moves_resumedAfter rejection.fault)
      have there : Inside debris semicolon rest (final.resumedAfter rejection.fault) ∨
          (final.resumedAfter rejection.fault).rest = rest := by
        rcases contained.ends with ⟨ended, stays⟩ | ⟨inside, -⟩
        · right
          rw [TokenStream.resumedAfter, stays rejection abandoned]
          exact ended
        · exact inside.resumedAfter isSemicolon rejection.fault
      rw [TokenStream.recovered_some]
      rcases there with inside | ended
      · split
        · exact inside.moveOver_one
        · exact .inl inside
      · rw [if_neg (further resumes ended)]
        exact .inr ended

end Statements

end NumericLanguage
