import NumericLanguage.Proofs.Grammar.Derivation

/-!
# What holds of a derived run

The grammar sets brackets in pairs. A property of runs of tokens that holds of single tokens other
than brackets, and that a pair of brackets around a run and runs side by side keep
(`KeptByBrackets`), therefore holds of whatever a tree derives as soon as it holds of the
expressions in it (`DerivesStatement.exists_run_of`). That a derived run opens as many parentheses
as it closes is one such property (`DerivesItems.openedParens_add`).
-/

set_option autoImplicit false

namespace NumericLanguage

/-! ## Properties that brackets keep -/

/-- A property of runs that does not depend on tokens that are no brackets, and on pairs of
brackets. -/
structure KeptByBrackets (holds : List Token → Prop) : Prop where
  nil : holds []
  append {run more : List Token} : holds run → holds more → holds (run ++ more)
  plain {token : Token} : token.kind.IsPlain → token.kind ≠ .operator .leftBrace →
    token.kind ≠ .operator .rightBrace → holds [token]
  parens {opening closing : Token} {inside : List Token} : opening.kind = .operator .leftParen →
    holds inside → closing.kind = .operator .rightParen → holds (opening :: (inside ++ [closing]))
  braces {opening closing : Token} {inside : List Token} : opening.kind = .operator .leftBrace →
    holds inside → closing.kind = .operator .rightBrace → holds (opening :: (inside ++ [closing]))

namespace KeptByBrackets

variable {holds : List Token → Prop} {run behind condition : List Token}
  {token opening closing : Token}

/-- A token that is no bracket in front of a run. -/
theorem cons_of_eq (kept : KeptByBrackets holds) {kind : TokenKind} (same : token.kind = kind)
    (plain : kind ∉ [TokenKind.operator .leftParen, .operator .rightParen, .operator .leftBrace,
      .operator .rightBrace]) (others : holds run) : holds (token :: run) := by
  subst same
  simp only [List.mem_cons, List.not_mem_nil, or_false, not_or] at plain
  obtain ⟨notLeft, notRight, notLeftBrace, notRightBrace⟩ := plain
  exact kept.append (kept.plain ⟨notLeft, notRight⟩ notLeftBrace notRightBrace) others

/-- The name of a type in front of a run. -/
theorem cons_of_isTypeName (kept : KeptByBrackets holds) (isType : token.kind.isTypeName = true)
    (others : holds run) : holds (token :: run) := by
  refine kept.cons_of_eq rfl ?_ others
  simp [TokenKind.ne_operator_of_isTypeName isType]

/-- A keyword with a condition in parentheses in front of a run. -/
theorem heading (kept : KeptByBrackets holds) {word : Keyword}
    (isKeyword : token.kind = .keyword word) (isOpening : opening.kind = .operator .leftParen) (inside : holds condition)
    (isClosing : closing.kind = .operator .rightParen) (others : holds behind) :
    holds (token :: opening :: (condition ++ closing :: behind)) := by
  have group : holds (opening :: (condition ++ [closing]) ++ behind) :=
    kept.append (kept.parens isOpening inside isClosing) others
  rw [List.cons_append, List.append_assoc] at group
  exact kept.cons_of_eq isKeyword (by simp) group

end KeptByBrackets

/-! ## Derived runs -/

namespace SyntaxTree

mutual
/-- The expressions of a tree, in their order. -/
def expressions : SyntaxTree → List (List Token)
  | declaration _ _ _ initial => initial.toList
  | read _ _ => []
  | write _ tokens => [tokens]
  | ifThen _ condition consequence => condition :: consequence.expressions
  | ifThenElse _ condition consequence alternative =>
      condition :: (consequence.expressions ++ alternative.expressions)
  | loop _ condition body => condition :: body.expressions
  | block _ items => expressionsAll items
  | expression tokens _ => [tokens]

/-- The expressions of some trees, in their order. -/
def expressionsAll : List SyntaxTree → List (List Token)
  | [] => []
  | tree :: others => tree.expressions ++ expressionsAll others
end

end SyntaxTree

section Derivations

variable {holds : List Token → Prop} (kept : KeptByBrackets holds)

include kept

mutual
/-- **What holds of the expressions of a statement holds of its run.** -/
theorem DerivesStatement.exists_run_of : ∀ {tree : SyntaxTree} {input rest : List Token},
    DerivesStatement tree input rest → (∀ run ∈ tree.expressions, IsExpression run → holds run) →
    ∃ run, input = run ++ rest ∧ holds run
  | _, _, _, .read isKeyword isOpening isName isClosing isSemicolon, _ =>
      ⟨[_, _, _, _, _], rfl, kept.heading isKeyword isOpening
        (kept.cons_of_eq isName (by decide) kept.nil) isClosing
        (kept.cons_of_eq isSemicolon (by decide) kept.nil)⟩
  | _, _, _, @DerivesStatement.write keyword opening closing semicolon expression _ isKeyword
      isOpening isExpression isClosing isSemicolon, inside =>
      ⟨keyword :: opening :: (expression ++ [closing, semicolon]), by simp,
        kept.heading isKeyword isOpening (inside expression List.mem_cons_self isExpression)
          isClosing (kept.cons_of_eq isSemicolon (by decide) kept.nil)⟩
  | _, _, _, @DerivesStatement.ifThen keyword opening closing thenToken condition _ _ _ isKeyword
      isOpening isExpression isClosing isThen consequence _, inside => by
      obtain ⟨run, rfl, first⟩ := consequence.exists_run_of fun run member =>
        inside run (List.mem_cons_of_mem _ member)
      exact ⟨keyword :: opening :: (condition ++ closing :: thenToken :: run), by simp,
        kept.heading isKeyword isOpening (inside condition List.mem_cons_self isExpression)
          isClosing (kept.cons_of_eq isThen (by decide) first)⟩
  | _, _, _, @DerivesStatement.ifThenElse keyword opening closing thenToken elseToken condition _ _
      _ _ _ isKeyword isOpening isExpression isClosing isThen consequence isElse alternative,
      inside => by
      obtain ⟨run, rfl, first⟩ := consequence.exists_run_of fun run member =>
        inside run (List.mem_cons_of_mem _ (List.mem_append_left _ member))
      obtain ⟨other, rfl, second⟩ := alternative.exists_run_of fun run member =>
        inside run (List.mem_cons_of_mem _ (List.mem_append_right _ member))
      exact ⟨keyword :: opening :: (condition ++ closing :: thenToken :: (run ++ elseToken ::
        other)), by simp,
        kept.heading isKeyword isOpening (inside condition List.mem_cons_self isExpression)
          isClosing (kept.cons_of_eq isThen (by decide)
            (kept.append first (kept.cons_of_eq isElse (by decide) second)))⟩
  | _, _, _, @DerivesStatement.loop keyword opening closing condition _ _ _ isKeyword isOpening
      isExpression isClosing block, inside => by
      obtain ⟨run, rfl, body⟩ := block.exists_run_of fun run member =>
        inside run (List.mem_cons_of_mem _ member)
      exact ⟨keyword :: opening :: (condition ++ closing :: run), by simp,
        kept.heading isKeyword isOpening (inside condition List.mem_cons_self isExpression)
          isClosing body⟩
  | _, _, _, .block block, inside => block.exists_run_of inside
  | _, _, _, @DerivesStatement.expression semicolon tokens _ isExpression isSemicolon _, inside =>
      ⟨tokens ++ [semicolon], by simp, kept.append (inside tokens List.mem_cons_self isExpression)
        (kept.cons_of_eq isSemicolon (by decide) kept.nil)⟩

theorem DerivesBlock.exists_run_of : ∀ {tree : SyntaxTree} {input rest : List Token},
    DerivesBlock tree input rest → (∀ run ∈ tree.expressions, IsExpression run → holds run) →
    ∃ run, input = run ++ rest ∧ holds run
  | _, _, _, @DerivesBlock.braces opening closing _ _ _ isOpening items isClosing, inside => by
      obtain ⟨run, rfl, body⟩ := items.exists_run_of inside
      exact ⟨opening :: (run ++ [closing]), by simp, kept.braces isOpening body isClosing⟩

theorem DerivesItem.exists_run_of : ∀ {tree : SyntaxTree} {input rest : List Token},
    DerivesItem tree input rest → (∀ run ∈ tree.expressions, IsExpression run → holds run) →
    ∃ run, input = run ++ rest ∧ holds run
  | _, _, _, .declaration isType _ isName isSemicolon, _ =>
      ⟨[_, _, _], rfl, kept.cons_of_isTypeName isType (kept.cons_of_eq isName (by decide)
        (kept.cons_of_eq isSemicolon (by decide) kept.nil))⟩
  | _, _, _, @DerivesItem.initialized typeToken name sign semicolon _ initial _ isType _ isName
      isSign isExpression isSemicolon, inside =>
      ⟨typeToken :: name :: sign :: (initial ++ [semicolon]), by simp,
        kept.cons_of_isTypeName isType (kept.cons_of_eq isName (by decide)
          (kept.cons_of_eq isSign (by decide) (kept.append
            (inside initial List.mem_cons_self isExpression)
            (kept.cons_of_eq isSemicolon (by decide) kept.nil))))⟩
  | _, _, _, .statement _ statement, inside => statement.exists_run_of inside

/-- What holds of the expressions of declarations and statements holds of their run. -/
theorem DerivesItems.exists_run_of : ∀ {trees : List SyntaxTree} {input rest : List Token},
    DerivesItems trees input rest →
    (∀ run ∈ SyntaxTree.expressionsAll trees, IsExpression run → holds run) →
    ∃ run, input = run ++ rest ∧ holds run
  | _, _, _, .nil, _ => ⟨[], rfl, kept.nil⟩
  | _, _, _, .cons item others, inside => by
      obtain ⟨run, rfl, first⟩ := item.exists_run_of fun run member =>
        inside run (List.mem_append_left _ member)
      obtain ⟨behind, rfl, second⟩ := others.exists_run_of fun run member =>
        inside run (List.mem_append_right _ member)
      exact ⟨run ++ behind, by simp, kept.append first second⟩
end

end Derivations

/-! ## Parentheses -/

theorem keptByBrackets_parens : KeptByBrackets fun run => openedParens run = closedParens run where
  nil := rfl
  append first second := by rw [openedParens_append, closedParens_append, first, second]
  plain plain _ _ := by simp [openedParens, closedParens, plain.1, plain.2]
  parens isOpening inside isClosing := by
    simpa [openedParens, closedParens, isOpening, isClosing] using inside
  braces isOpening inside isClosing := by
    simpa [openedParens, closedParens, isOpening, isClosing] using inside

/-- A balanced run opens as many parentheses as it closes. -/
theorem Balanced.openedParens_eq {run : List Token} (balanced : Balanced run) :
    openedParens run = closedParens run := by
  induction balanced with
  | nil => rfl
  | plain plain _ ih => simpa [openedParens, closedParens, plain.1, plain.2] using ih
  | group isOpening _ isClosing _ ihInside ihRest =>
      simp only [openedParens, closedParens] at ihInside ihRest ⊢
      simp [isOpening, isClosing]
      omega

/-- Declarations and statements open as many parentheses as they close. -/
theorem DerivesItems.openedParens_add {trees : List SyntaxTree} {input rest : List Token}
    (derives : DerivesItems trees input rest) :
    openedParens input + closedParens rest = closedParens input + openedParens rest := by
  obtain ⟨run, rfl, same⟩ := derives.exists_run_of keptByBrackets_parens
    fun _ _ isExpression => isExpression.balanced.openedParens_eq
  rw [openedParens_append, closedParens_append, same]
  omega

end NumericLanguage
