import NumericLanguage.Proofs.Analysis.Anchors

/-!
# Properties that parsing keeps

What is known of the findings before a program is parsed is known of them at the end, if each single
change keeps it: a check that reports at most one fault, a rejection, a scope that is entered or
left, and a declaration. The property may speak of how far parsing has come in the list of tokens,
and of the tokens in front of there. For a declaration it then matters where in the list its tokens
stand (`DeclarationAt`): the type, the name behind it, and, if there is a sign for it, the initial
value, which goes on up to a sign that ends an expression or up to the end of the input.

So a property needs one short proof for each kind of change (`Findings.Kept`), and the rules of the
parser need one induction for all of these properties (`Reads.keeps`). Abandoned statements and
recovery are in it: they record a rejection and move on.
-/

set_option autoImplicit false

namespace NumericLanguage

open ParseTree (settle)

/-! ## Tokens of declarations -/

/-- An expression that stands in a list of tokens, from an index on, and goes on as far as it can:
to a sign that ends an expression, or to the end of the input. -/
structure ExpressionAt (tokens : List Token) (index : Nat) (expression : List Token) : Prop where
  inside : ∀ offset token, expression[offset]? = some token →
    tokens[index + offset]? = some token
  ends : ∃ behind, tokens[index + expression.length]? = some behind ∧
    (behind.kind.endsExpression = true ∨ behind.kind = .endOfInput)

/-- The tokens of a declaration, without the semicolon, that stand in a list from an index on. -/
structure DeclarationAt (tokens : List Token) (index : Nat) (typeToken name : Token)
    (type : ValueType) (initial : Option (List Token)) : Prop where
  typeAt : tokens[index]? = some typeToken
  isType : typeToken.kind.isTypeName = true
  spells : ValueType.ofWord typeToken.lexeme = .ok type
  nameAt : tokens[index + 1]? = some name
  isName : name.kind = .identifier
  initialAt : ∀ expression ∈ initial,
    (∃ sign, tokens[index + 2]? = some sign ∧ sign.kind = .operator .assign) ∧
      ExpressionAt tokens (index + 3) expression

/-- Behind a captured run stands a sign that ends an expression, or nothing. -/
theorem captured_ends (depth : Nat) (tokens : List Token) :
    ∀ next ∈ (tokens.drop (captured depth tokens).length).head?,
      next.kind.endsExpression = true := by
  induction tokens generalizing depth with
  | nil => simp [captured]
  | cons token rest ih =>
      rw [captured]
      by_cases ends : depth = 0 ∧ token.kind.endsExpression = true
      · rw [if_pos ends]
        simpa using ends.2
      · rw [if_neg ends, List.length_cons, List.drop_succ_cons]
        exact ih _

/-- An expression that is captured at a place stands there in the list. -/
theorem Within.expressionAt {tokens : List Token} {place : TokenStream}
    (within : Within tokens place) :
    ExpressionAt tokens place.position (captured 0 place.rest) where
  inside := by
    intro offset token found
    obtain ⟨behind, split⟩ := captured_prefix 0 place.rest
    refine within.getElem?_ahead offset ?_
    rw [← split, List.getElem?_append_left (List.getElem?_eq_some_iff.mp found).1, found]
  ends := by
    have inFront := captured_prefix 0 place.rest
    have length := inFront.length_le
    have moved : place.behindExpression.position =
        place.position + (captured 0 place.rest).length := by
      simp only [TokenStream.behindExpression, TokenStream.moveOver, TokenStream.position,
        List.length_append, List.length_reverse, List.length_take]
      omega
    have atEnd : Within tokens place.behindExpression := within.moved (.moveOver _ _)
    refine ⟨place.behindExpression.peek, moved ▸ atEnd.getElem?_next, ?_⟩
    have stops := captured_ends 0 place.rest
    rw [TokenStream.peek]
    change (∀ next ∈ place.behindExpression.rest.head?, _) at stops
    cases ahead : place.behindExpression.rest.head? with
    | none => exact .inr atEnd.stop
    | some next => exact .inl (stops next ahead)

/-- The tokens of a declaration, given those ahead of a place. -/
theorem DeclarationAt.of_within {tokens front rest : List Token} {typeToken name stop : Token}
    {type : ValueType} {initial : Option (List Token)}
    (within : Within tokens ⟨front, typeToken :: name :: rest, stop⟩)
    (isType : typeToken.kind.isTypeName = true)
    (spells : ValueType.ofWord typeToken.lexeme = .ok type) (isName : name.kind = .identifier)
    (captures : ∀ expression ∈ initial, ∃ sign behind, rest = sign :: behind ∧
      sign.kind = .operator .assign ∧ captured 0 behind = expression) :
    DeclarationAt tokens front.length typeToken name type initial where
  typeAt := within.getElem?_next
  isType := isType
  spells := spells
  nameAt := within.getElem?_ahead 1 rfl
  isName := isName
  initialAt := by
    intro expression inside
    obtain ⟨sign, behind, rfl, isSign, rfl⟩ := captures expression inside
    exact ⟨⟨sign, within.getElem?_ahead 2 rfl, isSign⟩,
      (within.moved ⟨[typeToken, name, sign], behind, rfl, rfl⟩).expressionAt⟩

/-! ## What changes of the findings keep -/

open Findings TokenStream

/-- A property of what has been found up to an index of a list of tokens that every change of the
findings keeps. -/
structure Findings.Kept (policy : RedeclarationPolicy) (tokens : List Token)
    (holds : Nat → Findings → Prop) : Prop where
  moved : ∀ {index further : Nat} {findings : Findings},
    holds index findings → index ≤ further → holds further findings
  checked : ∀ {index : Nat} {findings after : Findings},
    holds index findings → findings.Checked after → holds index after
  rejected : ∀ {index : Nat} {findings : Findings} (rejection : Rejection),
    holds index findings → holds index (findings.record rejection.diagnostic)
  entered : ∀ {index : Nat} {findings : Findings},
    holds index findings → holds index findings.enter
  left : ∀ {index : Nat} {findings : Findings},
    holds index findings → holds index findings.leave
  declared : ∀ {index : Nat} {findings : Findings} {typeToken name : Token} {type : ValueType}
    {initial : Option (List Token)}, holds index findings →
    DeclarationAt tokens index typeToken name type initial →
    holds (index + 2)
      (ParseTree.declarationEffect policy typeToken name type initial findings).2

theorem Findings.checked_expressionEffect (tokens : List Token) (semicolon : Token)
    (findings : Findings) :
    findings.Checked (ParseTree.expressionEffect tokens semicolon findings).2 := by
  unfold ParseTree.expressionEffect
  split
  · exact findings.checked_checkAssignment _ _
  · exact .passed

/-- A property that holds at a place in a list of tokens. -/
structure HoldsAt (tokens : List Token) (holds : Nat → Findings → Prop) (place : TokenStream)
    (findings : Findings) : Prop where
  within : Within tokens place
  holds : holds place.position findings

/-! ## Readings -/

section Readings

variable {policy : RedeclarationPolicy} {tokens : List Token} {holds : Nat → Findings → Prop}
  (kept : Kept policy tokens holds)

include kept

/-- What holds at a place holds at later places. -/
theorem HoldsAt.moved {place further : TokenStream} {findings : Findings}
    (before : HoldsAt tokens holds place findings) (moves : place.Moves further) :
    HoldsAt tokens holds further findings :=
  ⟨before.within.moved moves, kept.moved before.holds moves.position_le⟩

theorem HoldsAt.checked {place : TokenStream} {findings after : Findings}
    (before : HoldsAt tokens holds place findings) (checked : findings.Checked after) :
    HoldsAt tokens holds place after :=
  ⟨before.within, kept.checked before.holds checked⟩

/-- Behind a declaration the tokens of its type and its name are passed. -/
theorem HoldsAt.declared {place final : TokenStream} {findings : Findings}
    {typeToken name : Token} {type : ValueType} {initial : Option (List Token)}
    (before : HoldsAt tokens holds place findings)
    (declaration : DeclarationAt tokens place.position typeToken name type initial)
    (moves : place.Moves final) (behind : place.position + 2 ≤ final.position) :
    HoldsAt tokens holds final
      (ParseTree.declarationEffect policy typeToken name type initial findings).2 :=
  ⟨before.within.moved moves, kept.moved (kept.declared before.holds declaration) behind⟩

/-- A demand that is not met is recorded where it was noticed. -/
theorem Fails.holdsAt {demands : List Demand} {place final : TokenStream} {rejection : Rejection}
    {findings : Findings} (fails : Fails demands place rejection final)
    (before : HoldsAt tokens holds place findings) :
    HoldsAt tokens holds final (findings.record rejection.diagnostic) :=
  ⟨before.within.moved fails.moves,
    kept.moved (kept.rejected rejection before.holds) fails.moves.position_le⟩

mutual
/-- **What the changes of the findings keep, readings keep.** -/
theorem Reads.keeps : ∀ {levels : Nat} {place final : TokenStream} {reading : ParseTree},
    Reads levels place reading final → ∀ {findings : Findings},
    HoldsAt tokens holds place findings →
      HoldsAt tokens holds final (settle (reading.effect policy findings))
  | _, _, _, _, .tooDeep, _, before =>
      HoldsAt.moved kept ⟨before.within, kept.rejected _ before.holds⟩ (.moveOver _ _)
  | _, _, _, _, reads@(.read ..), findings, before =>
      (before.checked kept (findings.checked_checkName _)).moved kept reads.moves
  | _, _, _, _, reads@(.write ..), findings, before =>
      (before.checked kept (findings.checked_checkLeadingName _)).moved kept reads.moves
  | _, _, _, _, .ifThen _ _ _ _ _ consequence _, findings, before => by
      rw [ParseTree.effect, ParseTree.settle_map]
      refine consequence.keeps (HoldsAt.moved kept ?_ ((Moves.condition ..).trans (.one ..)))
      exact before.checked kept (findings.checked_checkCondition _ _ _)
  | _, _, _, _, .ifThenElse _ _ _ _ _ consequence complete _ alternative, findings, before => by
      rw [ParseTree.settle_ifThenElse policy _ _ _ complete]
      refine alternative.keeps (HoldsAt.moved kept (consequence.keeps ?_) (.one ..))
      refine HoldsAt.moved kept ?_ ((Moves.condition ..).trans (.one ..))
      exact before.checked kept (findings.checked_checkCondition _ _ _)
  | _, _, _, _, .loop _ _ _ _ block, findings, before => by
      rw [ParseTree.effect, ParseTree.settle_map]
      exact block.keeps (before.moved kept (Moves.condition ..))
  | _, _, _, _, .block block, _, before => block.keeps before
  | _, _, _, _, reads@(.expression ..), findings, before =>
      (before.checked kept (checked_expressionEffect _ _ findings)).moved kept reads.moves
  | _, _, _, _, .keywordFails _ fails, _, before =>
      fails.holdsAt kept (before.moved kept (.one ..))
  | _, _, _, _, .expressionFails _ fails, _, before => fails.holdsAt kept before

theorem ReadsBlock.keeps : ∀ {levels : Nat} {place final : TokenStream} {reading : ParseTree},
    ReadsBlock levels place reading final → ∀ {findings : Findings},
    HoldsAt tokens holds place findings →
      HoldsAt tokens holds final (settle (reading.effect policy findings))
  | _, _, _, _, .closed _ items _, findings, before => by
      have atBody := before.moved kept (.one ..)
      have inside := items.keeps ⟨atBody.within, kept.entered atBody.holds⟩
      exact HoldsAt.moved kept ⟨inside.within, kept.left inside.holds⟩ (.one ..)
  | _, _, _, _, .unclosed _ items, findings, before => by
      have atBody := before.moved kept (.one ..)
      have inside := items.keeps ⟨atBody.within, kept.entered atBody.holds⟩
      exact ⟨inside.within, kept.left (kept.rejected _ inside.holds)⟩

theorem ReadsItem.keeps : ∀ {levels : Nat} {place final : TokenStream} {reading : ParseTree},
    ReadsItem levels place reading final → ∀ {findings : Findings},
    HoldsAt tokens holds place findings →
      HoldsAt tokens holds final (settle (reading.effect policy findings))
  | _, _, _, _, reads@(.declaration isType spells isName _), _, before =>
      before.declared kept (.of_within before.within isType spells isName nofun) reads.moves
        (Nat.le_succ _)
  | _, _, _, _, reads@(.initialized isType spells isName isSign isExpression isSemicolon), _,
      before => by
      have captures := isExpression.captured_append
        (congrArg TokenKind.endsExpression isSemicolon)
      refine before.declared kept (.of_within before.within isType spells isName ?_) reads.moves ?_
      · rintro _ ⟨⟩
        exact ⟨_, _, rfl, isSign, captures _⟩
      · simp only [position, List.length_cons, List.length_append, List.length_reverse]
        omega
  | _, _, _, _, .nameless _ _ fails, _, before =>
      fails.holdsAt kept (before.moved kept (.one ..))
  | _, _, _, _, .unended isType spells isName _ fails, _, before =>
      fails.holdsAt kept <|
        before.declared kept (.of_within before.within isType spells isName nofun)
          ⟨[_, _], _, rfl, rfl⟩ (Nat.le_refl _)
  | _, _, _, _, .unendedInitial isType spells isName isSign fails, _, before => by
      refine fails.holdsAt kept <|
        before.declared kept (.of_within before.within isType spells isName ?_)
          ⟨[_, _, _], _, rfl, rfl⟩ (Nat.le_succ _)
      rintro _ ⟨⟩
      exact ⟨_, _, rfl, isSign, rfl⟩
  | _, _, _, _, .statement _ statement, _, before => statement.keeps before

theorem ReadsItems.keeps : ∀ {stops : TokenStream → Bool} {levels : Nat}
    {place final : TokenStream} {readings : List ParseTree},
    ReadsItems stops levels place readings final → ∀ {findings : Findings},
    HoldsAt tokens holds place findings →
      HoldsAt tokens holds final (ParseTree.effectAll policy readings findings).2
  | _, _, _, _, _, .done _, _, before => before
  | _, _, _, _, _, .next _ item others, _, before =>
      others.keeps ((item.keeps before).moved kept (moves_recovered _ _ _))
end

/-- What holds before a program is parsed holds behind it. -/
theorem ReadsProgram.keeps {readings : List ParseTree} {final : TokenStream} {findings : Findings}
    (reads : ReadsProgram (.ofTokens tokens) readings final)
    (within : Within tokens (.ofTokens tokens)) (before : holds 0 findings) :
    holds final.position (ParseTree.effectAll policy readings findings).2 :=
  (ReadsItems.keeps kept reads ⟨within, before⟩).holds

end Readings

end NumericLanguage
