import NumericLanguage.Proofs.Grammar.Expression

/-!
# Brackets in runs of tokens

Parentheses and braces are nested together when every closing one closes the innermost bracket that
is still open, and none remains open. In tokens with this property an expression never takes a
closing brace whose opening one stands in front of it (`keepsBraces_captured`), because a capture
goes over closing braces only between the parentheses that it has seen open. A statement that is
skipped keeps its braces balanced in any tokens (`keepsBraces_skipped`).
-/

set_option autoImplicit false

namespace NumericLanguage

/-! ## Open brackets -/

/-- A bracket that is open. -/
inductive Bracket
  | paren
  | brace
  deriving DecidableEq, Repr

/-- The brackets that are open behind a token, the innermost first, given those in front of it;
nothing if the token closes another bracket than the innermost one. -/
def TokenKind.bracketsBehind (kind : TokenKind) (outside : List Bracket) : Option (List Bracket) :=
  match kind, outside with
  | .operator .leftParen, outside => some (.paren :: outside)
  | .operator .leftBrace, outside => some (.brace :: outside)
  | .operator .rightParen, .paren :: outside => some outside
  | .operator .rightBrace, .brace :: outside => some outside
  | .operator .rightParen, _ => none
  | .operator .rightBrace, _ => none
  | _, outside => some outside

/-- The brackets that are open behind a run, given those in front of it. -/
def bracketsBehind : List Token → List Bracket → Option (List Bracket)
  | [], outside => some outside
  | token :: rest, outside => (token.kind.bracketsBehind outside).bind (bracketsBehind rest)

/-- Tokens whose parentheses and braces are nested together. -/
def WellNested (tokens : List Token) : Prop := bracketsBehind tokens [] = some []

instance (tokens : List Token) : Decidable (WellNested tokens) :=
  inferInstanceAs (Decidable (_ = _))

theorem bracketsBehind_append (run rest : List Token) (outside : List Bracket) :
    bracketsBehind (run ++ rest) outside =
      (bracketsBehind run outside).bind (bracketsBehind rest) := by
  induction run generalizing outside with
  | nil => rfl
  | cons token run ih =>
      simp only [List.cons_append, bracketsBehind, Option.bind_assoc]
      congr 1
      funext inside
      exact ih inside

namespace TokenKind

variable {kind : TokenKind} {outside inside : List Bracket}

/-- A token that is no bracket leaves the open ones alone. -/
theorem bracketsBehind_of_plain (notOpening : kind ≠ .operator .leftParen)
    (notClosing : kind ≠ .operator .rightParen) (notLeftBrace : kind ≠ .operator .leftBrace)
    (notRightBrace : kind ≠ .operator .rightBrace) :
    kind.bracketsBehind outside = some outside := by
  unfold bracketsBehind
  split <;> first | rfl | contradiction

/-- A closing parenthesis closes one. -/
theorem eq_paren_of_rightParen
    (fits : (TokenKind.operator .rightParen).bracketsBehind outside = some inside) :
    outside = .paren :: inside := by
  unfold bracketsBehind at fits
  split at fits <;> simp_all

/-- A closing brace closes one. -/
theorem eq_brace_of_rightBrace
    (fits : (TokenKind.operator .rightBrace).bracketsBehind outside = some inside) :
    outside = .brace :: inside := by
  unfold bracketsBehind at fits
  split at fits <;> simp_all

end TokenKind

/-! ## Counting braces -/

/-- The number of opening braces. -/
def openedBraces (tokens : List Token) : Nat :=
  tokens.countP fun token => token.kind = .operator .leftBrace

/-- The number of closing braces. -/
def closedBraces (tokens : List Token) : Nat :=
  tokens.countP fun token => token.kind = .operator .rightBrace

theorem openedBraces_append (run more : List Token) :
    openedBraces (run ++ more) = openedBraces run + openedBraces more := List.countP_append

theorem closedBraces_append (run more : List Token) :
    closedBraces (run ++ more) = closedBraces run + closedBraces more := List.countP_append

theorem openedBraces_cons (token : Token) (run : List Token) :
    openedBraces (token :: run) = openedBraces [token] + openedBraces run :=
  openedBraces_append [token] run

theorem closedBraces_cons (token : Token) (run : List Token) :
    closedBraces (token :: run) = closedBraces [token] + closedBraces run :=
  closedBraces_append [token] run

/-- A single token is an opening brace, a closing one or none. -/
theorem braces_of_token (token : Token) :
    (token.kind = .operator .leftBrace ∧ openedBraces [token] = 1 ∧ closedBraces [token] = 0) ∨
    (token.kind = .operator .rightBrace ∧ openedBraces [token] = 0 ∧ closedBraces [token] = 1) ∨
    (token.kind ≠ .operator .leftBrace ∧ token.kind ≠ .operator .rightBrace ∧
      openedBraces [token] = 0 ∧ closedBraces [token] = 0) := by
  by_cases isOpening : token.kind = .operator .leftBrace
  · exact .inl ⟨isOpening, by simp [openedBraces, isOpening], by simp [closedBraces, isOpening]⟩
  by_cases isClosing : token.kind = .operator .rightBrace
  · exact .inr (.inl ⟨isClosing, by simp [openedBraces, isClosing],
      by simp [closedBraces, isClosing]⟩)
  · exact .inr (.inr ⟨isOpening, isClosing, by simp [openedBraces, isOpening],
      by simp [closedBraces, isClosing]⟩)

/-- A run that closes no more braces than it opens. -/
def KeepsBraces (run : List Token) : Prop := closedBraces run ≤ openedBraces run

instance (run : List Token) : Decidable (KeepsBraces run) :=
  inferInstanceAs (Decidable (_ ≤ _))

/-- Closing and opening braces account for the braces that are open behind a run. -/
theorem count_bracketsBehind {run : List Token} {outside inside : List Bracket}
    (fits : bracketsBehind run outside = some inside) :
    inside.count .brace + closedBraces run = outside.count .brace + openedBraces run := by
  induction run generalizing outside with
  | nil =>
      cases fits
      rfl
  | cons token run ih =>
      obtain ⟨between, first, rest⟩ := Option.bind_eq_some_iff.mp fits
      have others := ih rest
      simp only [closedBraces, openedBraces, List.countP_cons] at others ⊢
      by_cases leftBrace : token.kind = .operator .leftBrace
      · rw [leftBrace] at first ⊢
        cases first
        simp at others ⊢
        omega
      by_cases rightBrace : token.kind = .operator .rightBrace
      · rw [rightBrace] at first ⊢
        rw [TokenKind.eq_brace_of_rightBrace first]
        simp
        omega
      have same : between.count .brace = outside.count .brace := by
        by_cases leftParen : token.kind = .operator .leftParen
        · rw [leftParen] at first
          cases first
          exact List.count_cons_of_ne (by decide)
        by_cases rightParen : token.kind = .operator .rightParen
        · rw [rightParen] at first
          rw [TokenKind.eq_paren_of_rightParen first]
          exact (List.count_cons_of_ne (by decide)).symm
        · rw [TokenKind.bracketsBehind_of_plain leftParen rightParen leftBrace rightBrace] at first
          cases first
          rfl
      simp [leftBrace, rightBrace]
      omega

namespace KeepsBraces

variable {run more : List Token} {token : Token}

theorem nil : KeepsBraces [] := Nat.le_refl 0

theorem append (first : KeepsBraces run) (second : KeepsBraces more) :
    KeepsBraces (run ++ more) := by
  unfold KeepsBraces at *
  rw [closedBraces_append, openedBraces_append]
  omega

theorem cons (notBrace : token.kind ≠ .operator .rightBrace) (others : KeepsBraces run) :
    KeepsBraces (token :: run) := by
  unfold KeepsBraces closedBraces openedBraces at *
  rw [List.countP_cons_of_neg (by simpa using notBrace), List.countP_cons]
  omega

theorem one (notBrace : token.kind ≠ .operator .rightBrace) : KeepsBraces [token] :=
  .cons notBrace .nil

/-- A closing brace behind a run that opens one more. -/
theorem of_block {opening closing : Token} (isOpening : opening.kind = .operator .leftBrace)
    (isClosing : closing.kind = .operator .rightBrace) (inside : KeepsBraces run) :
    KeepsBraces (opening :: (run ++ [closing])) := by
  unfold KeepsBraces closedBraces openedBraces at *
  simp [List.countP_append, isOpening, isClosing]
  omega

end KeepsBraces

/-! ## Captured and skipped runs -/

/-- A capture that has seen some parentheses open closes no bracket from in front of them. -/
theorem exists_inside_of_captured {depth : Nat} {tokens : List Token} (seen : List Bracket)
    {outside behind : List Bracket} (count : seen.count .paren = depth)
    (fits : bracketsBehind (captured depth tokens) (seen ++ outside) = some behind) :
    ∃ inside, behind = inside ++ outside := by
  induction tokens generalizing depth seen with
  | nil =>
      cases fits
      exact ⟨seen, rfl⟩
  | cons token rest ih =>
      unfold captured at fits
      split at fits
      · cases fits
        exact ⟨seen, rfl⟩
      · rename_i goesOn
        -- The innermost bracket was seen, unless the capture ends in front of a closing one.
        have innermost (ends : token.kind.endsExpression = true) :
            ∃ bracket others, seen = bracket :: others := by
          cases seen with
          | nil => exact absurd ⟨count.symm, ends⟩ goesOn
          | cons bracket others => exact ⟨bracket, others, rfl⟩
        obtain ⟨between, first, behindToken⟩ := Option.bind_eq_some_iff.mp fits
        by_cases leftParen : token.kind = .operator .leftParen
        · rw [leftParen] at first behindToken
          cases first
          exact ih _ (by rw [List.count_cons_self, count]) behindToken
        by_cases rightParen : token.kind = .operator .rightParen
        · obtain ⟨bracket, others, rfl⟩ := innermost (by rw [rightParen]; rfl)
          rw [rightParen] at first behindToken
          cases TokenKind.eq_paren_of_rightParen first
          refine ih _ ?_ behindToken
          rw [← count, List.count_cons_self]
          rfl
        have plain : token.kind.IsPlain := ⟨leftParen, rightParen⟩
        rw [plain.depthBehind] at behindToken
        by_cases leftBrace : token.kind = .operator .leftBrace
        · rw [leftBrace] at first
          cases first
          exact ih _ ((List.count_cons_of_ne (by decide)).trans count) behindToken
        by_cases rightBrace : token.kind = .operator .rightBrace
        · obtain ⟨bracket, others, rfl⟩ := innermost (by rw [rightBrace]; rfl)
          rw [rightBrace] at first
          cases TokenKind.eq_brace_of_rightBrace first
          exact ih _ ((List.count_cons_of_ne (by decide)).symm.trans count) behindToken
        · rw [TokenKind.bracketsBehind_of_plain leftParen rightParen leftBrace rightBrace] at first
          cases first
          exact ih _ count behindToken

/-- Tokens that close all brackets that are open in front of them. -/
def ClosesAll (tokens : List Token) : Prop :=
  ∃ outside, bracketsBehind tokens outside = some []

/-- What stands behind a run of well-nested tokens closes the brackets that the run leaves open. -/
theorem ClosesAll.of_append {run rest : List Token} (closes : ClosesAll (run ++ rest)) :
    ClosesAll rest := by
  obtain ⟨outside, fits⟩ := closes
  rw [bracketsBehind_append] at fits
  obtain ⟨between, -, behind⟩ := Option.bind_eq_some_iff.mp fits
  exact ⟨between, behind⟩

/-- **An expression keeps the braces around it** in well-nested tokens. -/
theorem keepsBraces_captured {tokens : List Token} (closes : ClosesAll tokens) :
    KeepsBraces (captured 0 tokens) := by
  obtain ⟨outside, fits⟩ := closes
  obtain ⟨rest, split⟩ := captured_prefix 0 tokens
  rw [← split, bracketsBehind_append] at fits
  obtain ⟨between, run, -⟩ := Option.bind_eq_some_iff.mp fits
  obtain ⟨inside, rfl⟩ := exists_inside_of_captured [] List.count_nil run
  have accounts := count_bracketsBehind run
  rw [List.count_append] at accounts
  unfold KeepsBraces
  omega

/-- A run that is skipped with some braces open in front closes at most these. -/
theorem closedBraces_skipped_le (depth : Nat) (tokens : List Token) :
    closedBraces (skipped depth tokens) ≤ openedBraces (skipped depth tokens) + depth := by
  induction tokens generalizing depth with
  | nil => cases depth <;> exact Nat.zero_le _
  | cons token rest ih =>
      have one := braces_of_token token
      cases depth with
      | zero =>
          unfold skipped
          split
          · exact Nat.le_refl 0
          · rename_i notBrace
            split
            · exact KeepsBraces.one notBrace
            · split
              · have others := ih 1
                rw [closedBraces_cons, openedBraces_cons]
                grind
              · exact KeepsBraces.cons notBrace (ih 0)
      | succ depth =>
          unfold skipped
          split
          · split
            · grind
            · have others := ih depth
              rw [closedBraces_cons, openedBraces_cons]
              grind
          · split
            · have others := ih (depth + 2)
              rw [closedBraces_cons, openedBraces_cons]
              grind
            · have others := ih (depth + 1)
              rw [closedBraces_cons, openedBraces_cons]
              grind

/-- **A skipped statement keeps the braces around it.** -/
theorem keepsBraces_skipped (tokens : List Token) : KeepsBraces (skipped 0 tokens) :=
  closedBraces_skipped_le 0 tokens

end NumericLanguage
