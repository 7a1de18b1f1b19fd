import NumericLanguage.Proofs.Grammar.Derivation

/-!
# The tokens of a derivation

A tree derives a run of tokens whatever stands behind it, with one exception: an `else` behind a
conditional without an alternative would belong to it. So the tokens behind a derivation can be
exchanged for others (`DerivesItem.exists_run`), and more tokens can follow (`DerivesItems.append`),
as long as no `else` comes into that place.
-/

set_option autoImplicit false

namespace NumericLanguage

/-! ## Tokens that continue a conditional -/

/-- Tokens that do not continue a conditional. -/
def NoElse (tokens : List Token) : Prop :=
  ∀ next ∈ tokens.head?, next.kind ≠ .keyword .elseWord

namespace NoElse

variable {run rest more : List Token}

theorem append (alone : NoElse rest) (noElse : NoElse more) : NoElse (rest ++ more) := by
  cases rest with
  | nil => exact noElse
  | cons first others => exact alone

/-- What stands behind a run matters only if the run is empty. -/
theorem exchange (noElse : NoElse rest → NoElse more) (alone : NoElse (run ++ rest)) :
    NoElse (run ++ more) := by
  cases run with
  | nil => exact noElse alone
  | cons first others => exact alone

end NoElse

/-! ## Exchanging what stands behind -/

mutual
/-- **A statement is derived from a run**, in front of any tokens that do not bring an `else`. -/
theorem DerivesStatement.exists_run : ∀ {tree : SyntaxTree} {input rest : List Token},
    DerivesStatement tree input rest → ∃ run, input = run ++ rest ∧ run ≠ [] ∧
      ∀ more, (NoElse rest → NoElse more) → DerivesStatement tree (run ++ more) more
  | _, _, _, @DerivesStatement.read keyword opening name closing semicolon _ isKeyword isOpening
      isName isClosing isSemicolon =>
      ⟨[keyword, opening, name, closing, semicolon], rfl, by simp, fun _ _ =>
        .read isKeyword isOpening isName isClosing isSemicolon⟩
  | _, _, _, @DerivesStatement.write keyword opening closing semicolon expression _ isKeyword
      isOpening isExpression isClosing isSemicolon => by
      refine ⟨keyword :: opening :: (expression ++ [closing, semicolon]), by simp, by simp, ?_⟩
      intro more _
      simpa using DerivesStatement.write isKeyword isOpening isExpression isClosing isSemicolon
  | _, _, _, @DerivesStatement.ifThen keyword opening closing thenToken condition _ _ _ isKeyword
      isOpening isExpression isClosing isThen consequence alone => by
      obtain ⟨run, rfl, -, derives⟩ := consequence.exists_run
      refine ⟨keyword :: opening :: (condition ++ closing :: thenToken :: run), by simp, by simp,
        ?_⟩
      intro more noElse
      simpa using DerivesStatement.ifThen isKeyword isOpening isExpression isClosing isThen
        (derives more noElse) (noElse alone)
  | _, _, _, @DerivesStatement.ifThenElse keyword opening closing thenToken elseToken condition _ _
      _ _ _ isKeyword isOpening isExpression isClosing isThen consequence isElse alternative => by
      obtain ⟨run, rfl, -, derives⟩ := consequence.exists_run
      obtain ⟨other, rfl, -, derivesOther⟩ := alternative.exists_run
      refine ⟨keyword :: opening :: (condition ++ closing :: thenToken :: (run ++ elseToken ::
        other)), by simp, by simp, ?_⟩
      intro more noElse
      simpa using DerivesStatement.ifThenElse isKeyword isOpening isExpression isClosing isThen
        (derives (elseToken :: (other ++ more)) id) isElse (derivesOther more noElse)
  | _, _, _, @DerivesStatement.loop keyword opening closing condition _ _ _ isKeyword isOpening
      isExpression isClosing block => by
      obtain ⟨run, rfl, -, derives⟩ := block.exists_run
      refine ⟨keyword :: opening :: (condition ++ closing :: run), by simp, by simp, ?_⟩
      intro more noElse
      simpa using DerivesStatement.loop isKeyword isOpening isExpression isClosing
        (derives more noElse)
  | _, _, _, .block block => by
      obtain ⟨run, split, some_token, derives⟩ := block.exists_run
      exact ⟨run, split, some_token, fun more noElse => .block (derives more noElse)⟩
  | _, _, _, @DerivesStatement.expression semicolon tokens _ isExpression isSemicolon other => by
      refine ⟨tokens ++ [semicolon], by simp, by simp, ?_⟩
      intro more _
      simpa using DerivesStatement.expression isExpression isSemicolon other

theorem DerivesBlock.exists_run : ∀ {tree : SyntaxTree} {input rest : List Token},
    DerivesBlock tree input rest → ∃ run, input = run ++ rest ∧ run ≠ [] ∧
      ∀ more, (NoElse rest → NoElse more) → DerivesBlock tree (run ++ more) more
  | _, _, _, @DerivesBlock.braces opening closing _ _ _ isOpening items isClosing => by
      obtain ⟨run, rfl, derives⟩ := items.exists_run
      refine ⟨opening :: (run ++ [closing]), by simp, by simp, ?_⟩
      intro more _
      simpa using DerivesBlock.braces isOpening (derives (closing :: more) id) isClosing

/-- **A declaration or a statement is derived from a run**, in front of any tokens that do not bring
an `else`. -/
theorem DerivesItem.exists_run : ∀ {tree : SyntaxTree} {input rest : List Token},
    DerivesItem tree input rest → ∃ run, input = run ++ rest ∧ run ≠ [] ∧
      ∀ more, (NoElse rest → NoElse more) → DerivesItem tree (run ++ more) more
  | _, _, _, @DerivesItem.declaration typeToken name semicolon _ _ isType names isName
      isSemicolon =>
      ⟨[typeToken, name, semicolon], rfl, by simp, fun _ _ =>
        .declaration isType names isName isSemicolon⟩
  | _, _, _, @DerivesItem.initialized typeToken name sign semicolon _ initial _ isType names isName
      isSign isExpression isSemicolon => by
      refine ⟨typeToken :: name :: sign :: (initial ++ [semicolon]), by simp, by simp, ?_⟩
      intro more _
      simpa using DerivesItem.initialized isType names isName isSign isExpression isSemicolon
  | _, _, _, .statement notType statement => by
      obtain ⟨_ | ⟨first, run⟩, rfl, some_token, derives⟩ := statement.exists_run
      · exact absurd rfl some_token
      · exact ⟨first :: run, rfl, some_token, fun more noElse =>
          .statement notType (derives more noElse)⟩

theorem DerivesItems.exists_run : ∀ {trees : List SyntaxTree} {input rest : List Token},
    DerivesItems trees input rest → ∃ run, input = run ++ rest ∧
      ∀ more, (NoElse rest → NoElse more) → DerivesItems trees (run ++ more) more
  | _, _, _, .nil => ⟨[], rfl, fun _ _ => .nil⟩
  | _, _, _, .cons item others => by
      obtain ⟨run, rfl, -, derives⟩ := item.exists_run
      obtain ⟨behind, rfl, derivesOthers⟩ := others.exists_run
      refine ⟨run ++ behind, by simp, ?_⟩
      intro more noElse
      rw [List.append_assoc]
      exact .cons (derives (behind ++ more) (.exchange noElse)) (derivesOthers more noElse)
end

/-! ## More tokens behind -/

/-- What is derivable is derivable with more tokens behind it, unless they begin with `else`. -/
theorem DerivesItems.append {trees : List SyntaxTree} {input rest more : List Token}
    (derives : DerivesItems trees input rest) (noElse : NoElse more) :
    DerivesItems trees (input ++ more) (rest ++ more) := by
  obtain ⟨run, rfl, derivesAlso⟩ := derives.exists_run
  rw [List.append_assoc]
  exact derivesAlso (rest ++ more) fun alone => alone.append noElse

end NumericLanguage
