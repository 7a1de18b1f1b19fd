import NumericLanguage.Token.Basic

/-!
# Runs of tokens

Three runs at the beginning of a token list, for three purposes. An expression is captured up to
the first `)`, `;` or `}` outside of parentheses that were opened within it. A statement is
skipped as a whole with its braces balanced. After a fault, tokens are discarded up to the next
boundary, which is behind a semicolon or in front of a keyword that begins a statement.
-/

set_option autoImplicit false

namespace NumericLanguage

/-! ## Expressions -/

/-- The number of open parentheses behind a token, given the number in front of it. -/
def depthBehind (depth : Nat) : TokenKind → Nat
  | .operator .leftParen => depth + 1
  | .operator .rightParen => depth - 1
  | _ => depth

/-- The run that is captured as an expression, with a number of parentheses open in front. -/
def captured : Nat → List Token → List Token
  | _, [] => []
  | depth, token :: rest =>
      if depth = 0 ∧ token.kind.endsExpression then []
      else token :: captured (depthBehind depth token.kind) rest

/-! ## Whole statements -/

/-- The run that is skipped as one statement, with a number of braces open in front. -/
def skipped : Nat → List Token → List Token
  | _, [] => []
  | 0, token :: rest =>
      if token.kind = .operator .rightBrace then []
      else if token.kind = .operator .semicolon then [token]
      else if token.kind = .operator .leftBrace then token :: skipped 1 rest
      else token :: skipped 0 rest
  | depth + 1, token :: rest =>
      if token.kind = .operator .rightBrace then
        if depth = 0 then [token] else token :: skipped depth rest
      else if token.kind = .operator .leftBrace then token :: skipped (depth + 2) rest
      else token :: skipped (depth + 1) rest

/-! ## Recovery -/

/-- Whether parsing may resume between two tokens; there may be none before. -/
def isBoundary (previous : Option Token) (following : Token) : Bool :=
  (previous.any fun token => token.kind = .operator .semicolon) || following.kind.startsStatement

/-- The run that is discarded up to the next boundary. -/
def discarded : Option Token → List Token → List Token
  | _, [] => []
  | previous, token :: rest =>
      if isBoundary previous token then [] else token :: discarded (some token) rest

/-! ## All three are beginnings -/

theorem captured_prefix (depth : Nat) (tokens : List Token) : captured depth tokens <+: tokens := by
  induction tokens generalizing depth with
  | nil => exact List.prefix_rfl
  | cons token rest ih =>
    unfold captured
    split
    · exact List.nil_prefix
    · exact List.cons_prefix_cons.mpr ⟨rfl, ih _⟩

theorem skipped_prefix (depth : Nat) (tokens : List Token) : skipped depth tokens <+: tokens := by
  induction tokens generalizing depth with
  | nil => cases depth <;> exact List.prefix_rfl
  | cons token rest ih =>
    have one : [token] <+: token :: rest := List.cons_prefix_cons.mpr ⟨rfl, List.nil_prefix⟩
    have more (depth : Nat) : token :: skipped depth rest <+: token :: rest :=
      List.cons_prefix_cons.mpr ⟨rfl, ih depth⟩
    cases depth with
    | zero =>
      unfold skipped
      split
      · exact List.nil_prefix
      · split
        · exact one
        · split <;> exact more _
    | succ depth =>
      unfold skipped
      split
      · split
        · exact one
        · exact more _
      · split <;> exact more _

theorem discarded_prefix (previous : Option Token) (tokens : List Token) :
    discarded previous tokens <+: tokens := by
  induction tokens generalizing previous with
  | nil => exact List.prefix_rfl
  | cons token rest ih =>
    unfold discarded
    split
    · exact List.nil_prefix
    · exact List.cons_prefix_cons.mpr ⟨rfl, ih _⟩

end NumericLanguage
