import NumericLanguage.Statement.Run

/-!
# Runs of tokens that are expressions

The grammar asks little of an expression: it is a run of tokens, possibly empty, whose parentheses
are balanced, and no `;` and no `}` stands outside of its parentheses. In front of a sign that ends
an expression, what is captured is exactly such a run (`captured_append`, `isExpression_captured`).
-/

set_option autoImplicit false

namespace NumericLanguage

/-! ## Balanced runs -/

namespace TokenKind

/-- A kind of tokens that is no parenthesis. -/
def IsPlain (kind : TokenKind) : Prop :=
  kind ≠ .operator .leftParen ∧ kind ≠ .operator .rightParen

theorem IsPlain.depthBehind {kind : TokenKind} (plain : kind.IsPlain) (depth : Nat) :
    depthBehind depth kind = depth := by
  unfold NumericLanguage.depthBehind
  split
  · exact absurd rfl plain.1
  · exact absurd rfl plain.2
  · rfl

/-- The name of a type is no operator. -/
theorem ne_operator_of_isTypeName {kind : TokenKind} (isType : kind.isTypeName = true)
    (sign : Operator) : kind ≠ .operator sign := by
  rintro rfl
  cases isType

/-- An expression ends at a closing parenthesis, a semicolon or a closing brace. -/
theorem endsExpression_iff {kind : TokenKind} :
    kind.endsExpression = true ↔
      kind = .operator .rightParen ∨ kind = .operator .semicolon ∨
        kind = .operator .rightBrace := by
  constructor
  · intro ends
    unfold endsExpression at ends
    split at ends
    · exact .inl rfl
    · exact .inr (.inl rfl)
    · exact .inr (.inr rfl)
    · cases ends
  · rintro (rfl | rfl | rfl) <;> rfl

end TokenKind

/-- A run of tokens whose parentheses are balanced. -/
inductive Balanced : List Token → Prop
  | nil : Balanced []
  | plain {token : Token} {rest : List Token} :
      token.kind.IsPlain → Balanced rest → Balanced (token :: rest)
  | group {opening closing : Token} {inside rest : List Token} :
      opening.kind = .operator .leftParen → Balanced inside →
      closing.kind = .operator .rightParen → Balanced rest →
      Balanced (opening :: (inside ++ closing :: rest))

/-- An expression: a run of tokens whose parentheses are balanced and in which no semicolon and
no closing brace stands outside of parentheses. -/
inductive IsExpression : List Token → Prop
  | nil : IsExpression []
  | plain {token : Token} {rest : List Token} :
      token.kind.IsPlain → token.kind ≠ .operator .semicolon →
      token.kind ≠ .operator .rightBrace → IsExpression rest → IsExpression (token :: rest)
  | group {opening closing : Token} {inside rest : List Token} :
      opening.kind = .operator .leftParen → Balanced inside →
      closing.kind = .operator .rightParen → IsExpression rest →
      IsExpression (opening :: (inside ++ closing :: rest))

theorem IsExpression.balanced {run : List Token} (isExpression : IsExpression run) :
    Balanced run := by
  induction isExpression with
  | nil => exact .nil
  | plain plain _ _ _ ih => exact .plain plain ih
  | group isOpening inside isClosing _ ih => exact .group isOpening inside isClosing ih

/-! ## Counting parentheses -/

/-- The number of opening parentheses. -/
def openedParens (tokens : List Token) : Nat :=
  tokens.countP fun token => token.kind = .operator .leftParen

/-- The number of closing parentheses. -/
def closedParens (tokens : List Token) : Nat :=
  tokens.countP fun token => token.kind = .operator .rightParen

theorem openedParens_append (run more : List Token) :
    openedParens (run ++ more) = openedParens run + openedParens more := List.countP_append

theorem closedParens_append (run more : List Token) :
    closedParens (run ++ more) = closedParens run + closedParens more := List.countP_append

/-- A token at which the capture goes on moves the count by what it opens and closes. -/
theorem depthBehind_add_closedParens {depth : Nat} {token : Token}
    (goesOn : ¬ (depth = 0 ∧ token.kind.endsExpression = true)) :
    depthBehind depth token.kind + closedParens [token] = depth + openedParens [token] := by
  by_cases isOpening : token.kind = .operator .leftParen
  · simp [depthBehind, closedParens, openedParens, isOpening]
  by_cases isClosing : token.kind = .operator .rightParen
  · have inside : depth ≠ 0 := fun outside => goesOn ⟨outside, by rw [isClosing]; rfl⟩
    simp [depthBehind, closedParens, openedParens, isClosing]
    omega
  · have plain : token.kind.IsPlain := ⟨isOpening, isClosing⟩
    simp [plain.depthBehind, closedParens, openedParens, isOpening, isClosing]

/-! ## Expressions are captured -/

/-- With a parenthesis open, a balanced run is captured as a whole. -/
theorem Balanced.captured_append {inside : List Token} (balanced : Balanced inside) (depth : Nat)
    (rest : List Token) :
    captured (depth + 1) (inside ++ rest) = inside ++ captured (depth + 1) rest := by
  induction balanced generalizing depth rest with
  | nil => rfl
  | plain plain _ ih =>
      rw [List.cons_append, captured, if_neg (by simp), plain.depthBehind, ih, List.cons_append]
  | group isOpening _ isClosing _ ihInside ihRest =>
      rw [List.cons_append, captured, if_neg (by simp), isOpening]
      simp only [depthBehind]
      rw [List.append_assoc, ihInside, List.cons_append, captured, if_neg (by simp), isClosing]
      simp only [depthBehind, Nat.add_sub_cancel]
      rw [ihRest, List.cons_append, List.append_assoc, List.cons_append]

/-- In front of a sign that ends an expression, an expression is captured as a whole. -/
theorem IsExpression.captured_append {expression : List Token}
    (isExpression : IsExpression expression) {ending : Token}
    (ends : ending.kind.endsExpression = true) (rest : List Token) :
    captured 0 (expression ++ ending :: rest) = expression := by
  induction isExpression with
  | nil => rw [List.nil_append, captured, if_pos ⟨rfl, ends⟩]
  | plain plain notSemicolon notBrace _ ih =>
      rw [List.cons_append, captured, if_neg, plain.depthBehind, ih]
      rintro ⟨-, stops⟩
      rcases TokenKind.endsExpression_iff.mp stops with paren | semicolon | brace
      · exact plain.2 paren
      · exact notSemicolon semicolon
      · exact notBrace brace
  | group isOpening balanced isClosing _ ih =>
      rw [List.cons_append, captured, if_neg (by simp [isOpening, TokenKind.endsExpression]),
        isOpening]
      simp only [depthBehind]
      rw [List.append_assoc, balanced.captured_append, List.cons_append, captured,
        if_neg (by simp), isClosing]
      simp only [depthBehind, Nat.add_sub_cancel]
      rw [ih]

/-! ## What is captured is an expression -/

/-- A run that is captured with a parenthesis open in front goes over the parenthesis that closes
it, and behind that one the rest is captured with one parenthesis less. -/
theorem exists_closing_of_captured {depth : Nat} {run rest : List Token} {ending : Token}
    (whole : captured (depth + 1) (run ++ ending :: rest) = run) :
    ∃ inside closing behind, run = inside ++ closing :: behind ∧ Balanced inside ∧
      closing.kind = .operator .rightParen ∧
      captured depth (behind ++ ending :: rest) = behind := by
  induction size : run.length using Nat.strongRecOn generalizing depth run with
  | ind size ih =>
      cases run with
      | nil => simp [captured] at whole
      | cons token run =>
          rw [List.cons_append, captured, if_neg (by simp), List.cons.injEq] at whole
          obtain ⟨-, whole⟩ := whole
          by_cases isOpening : token.kind = .operator .leftParen
          · -- The inner parenthesis is closed first; the outer one is closed behind it.
            rw [isOpening] at whole
            obtain ⟨inner, closing, between, rfl, balancedInner, isClosing, wholeBetween⟩ :=
              ih run.length (by simp [← size]) whole rfl
            obtain ⟨outer, last, behind, rfl, balancedOuter, isLast, wholeBehind⟩ :=
              ih between.length (by simp [← size]; omega) wholeBetween rfl
            refine ⟨token :: (inner ++ closing :: outer), last, behind, by simp, ?_, isLast,
              wholeBehind⟩
            exact .group isOpening balancedInner isClosing balancedOuter
          · by_cases isClosing : token.kind = .operator .rightParen
            · rw [isClosing] at whole
              exact ⟨[], token, run, rfl, .nil, isClosing, whole⟩
            · have plain : token.kind.IsPlain := ⟨isOpening, isClosing⟩
              rw [plain.depthBehind] at whole
              obtain ⟨inside, closing, behind, rfl, balanced, isClosing, wholeBehind⟩ :=
                ih run.length (by simp [← size]) whole rfl
              exact ⟨token :: inside, closing, behind, rfl, .plain plain balanced, isClosing,
                wholeBehind⟩

/-- A run that is captured in front of some token is an expression. -/
theorem isExpression_of_captured {run rest : List Token} {ending : Token}
    (whole : captured 0 (run ++ ending :: rest) = run) : IsExpression run := by
  induction size : run.length using Nat.strongRecOn generalizing run with
  | ind size ih =>
      cases run with
      | nil => exact .nil
      | cons token run =>
          have goesOn : token.kind.endsExpression = false := by
            refine Bool.eq_false_iff.mpr ?_
            intro ends
            rw [List.cons_append, captured, if_pos ⟨rfl, ends⟩] at whole
            cases whole
          rw [List.cons_append, captured, if_neg (by simp [goesOn]), List.cons.injEq] at whole
          obtain ⟨-, whole⟩ := whole
          by_cases isOpening : token.kind = .operator .leftParen
          · rw [isOpening] at whole
            obtain ⟨inside, closing, behind, rfl, balanced, isClosing, wholeBehind⟩ :=
              exists_closing_of_captured whole
            exact .group isOpening balanced isClosing
              (ih behind.length (by simp [← size]; omega) wholeBehind rfl)
          · have stays (kind : TokenKind) (ends : kind.endsExpression = true) :
                token.kind ≠ kind := by
              rintro rfl
              rw [goesOn] at ends
              cases ends
            have plain : token.kind.IsPlain := ⟨isOpening, stays _ rfl⟩
            rw [plain.depthBehind] at whole
            exact .plain plain (stays _ rfl) (stays _ rfl)
              (ih run.length (by simp [← size]) whole rfl)

end NumericLanguage
