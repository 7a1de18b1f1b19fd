import Mathlib.Data.List.Forall2
import NumericLanguage.Statement.Rules

/-!
# Paired tokens

Two lists of tokens may differ in the places of their tokens only. What parsing makes of them is
then alike: it differs in places, and in texts that mention places. This module says what that
means, part by part, for a given pairing of tokens. Two places correspond to each other if they are
those of paired tokens (`Pairing.Places`), two statements if their places do and they are equal in
everything but the texts of blocks (`Pairing.Statements`), and likewise for declarations, scopes,
tables, diagnostics and streams.

What is looked at on the way is the same on both sides, or corresponds: where a run of tokens ends,
what a name means, the type of an expression, whether a name is free.
-/

set_option autoImplicit false

namespace NumericLanguage

/-- Tokens that differ in their places only. -/
structure Token.Alike (first second : Token) : Prop where
  kind : first.kind = second.kind
  lexeme : first.lexeme = second.lexeme
  value : first.value = second.value

/-- A relation between tokens that are alike. -/
structure Pairing where
  Pairs : Token → Token → Prop
  alike {first second : Token} : Pairs first second → first.Alike second

namespace Pairing

variable (pairing : Pairing)

/-! ## What corresponds to each other -/

/-- The places of paired tokens. -/
def Places (first second : Location) : Prop :=
  ∃ token other, pairing.Pairs token other ∧ token.location = first ∧ other.location = second

/-- Runs of paired tokens. -/
abbrev Runs (first second : List Token) : Prop := List.Forall₂ pairing.Pairs first second

/-- Statements that differ in their places and in the texts of blocks. -/
inductive Statements : Statement → Statement → Prop
  | intro {first second : Statement} :
      first.kind = second.kind → first.target = second.target → first.type = second.type →
      (first.kind ≠ .block → first.content = second.content) →
      pairing.Places first.location second.location →
      List.Forall₂ Statements first.children second.children → Statements first second

/-- Declarations that differ in their places. -/
structure Declarations (first second : Declaration) : Prop where
  name : first.name = second.name
  type : first.type = second.type
  scope : first.scope = second.scope
  value : first.value = second.value
  place : pairing.Places first.location second.location

/-- Scopes whose declarations correspond to each other, in their order. -/
structure Scopes (first second : Scope) : Prop where
  name : first.name = second.name
  depth : first.depth = second.depth
  declarations : List.Forall₂ pairing.Declarations first.declarations second.declarations

/-- Tables whose scopes correspond to each other. -/
structure Tables (first second : ScopeTable) : Prop where
  current : pairing.Scopes first.current second.current
  enclosing : List.Forall₂ pairing.Scopes first.enclosing second.enclosing
  opened : first.opened = second.opened

/-- Diagnostics that differ in their places and in their texts. -/
structure Diagnostics (first second : Diagnostic) : Prop where
  code : first.code = second.code
  severity : first.severity = second.severity
  category : first.category = second.category
  place : pairing.Places first.location second.location

/-- Streams of paired tokens, at the same position. -/
structure Streams (first second : TokenStream) : Prop where
  consumed : pairing.Runs first.consumed second.consumed
  rest : pairing.Runs first.rest second.rest
  stop : pairing.Pairs first.stop second.stop

variable {pairing}

theorem places {first second : Token} (pairs : pairing.Pairs first second) :
    pairing.Places first.location second.location :=
  ⟨first, second, pairs, rfl, rfl⟩

/-! ## Related lists -/

section Lists

variable {α β γ δ : Type} {related : α → β → Prop} {first : List α} {second : List β}

theorem head? (lists : List.Forall₂ related first second) :
    Option.Rel related first.head? second.head? := by
  cases lists with
  | nil => exact .none
  | cons heads _ => exact .some heads

theorem getD {found : Option α} {other : Option β} {default : α} {standard : β}
    (options : Option.Rel related found other) (defaults : related default standard) :
    related (found.getD default) (other.getD standard) := by
  cases options with
  | some values => exact values
  | none => exact defaults

/-- Related options are both without a value or both with one. -/
theorem absent_or_present {found : Option α} {other : Option β}
    (options : Option.Rel related found other) :
    found = none ∧ other = none ∨
      ∃ value counterpart, found = some value ∧ other = some counterpart ∧
        related value counterpart := by
  cases options with
  | none => exact .inl ⟨rfl, rfl⟩
  | some values => exact .inr ⟨_, _, rfl, rfl, values⟩

section Options

variable {found : Option α} {other : Option β}

theorem isSome_eq (options : Option.Rel related found other) : found.isSome = other.isSome := by
  cases options with
  | none => rfl
  | some _ => rfl

/-- What is the same of related values is the same of related options. -/
theorem map_eq {read : α → γ} {readToo : β → γ} (options : Option.Rel related found other)
    (same : ∀ value counterpart, related value counterpart → read value = readToo counterpart) :
    found.map read = other.map readToo := by
  cases options with
  | none => rfl
  | some values => exact congrArg some (same _ _ values)

theorem option_any_eq {test : α → Bool} {check : β → Bool}
    (options : Option.Rel related found other)
    (same : ∀ value counterpart, related value counterpart → test value = check counterpart) :
    found.any test = other.any check := by
  cases options with
  | none => rfl
  | some values => exact same _ _ values

end Options

/-- A test that related values pass alike tells their lists apart no more than them. -/
theorem any_eq {test : α → Bool} {check : β → Bool}
    (same : ∀ value counterpart, related value counterpart → test value = check counterpart)
    (lists : List.Forall₂ related first second) : first.any test = second.any check := by
  induction lists with
  | nil => rfl
  | cons heads _ ih => rw [List.any_cons, List.any_cons, same _ _ heads, ih]

theorem find? {test : α → Bool} {check : β → Bool}
    (same : ∀ value counterpart, related value counterpart → test value = check counterpart)
    (lists : List.Forall₂ related first second) :
    Option.Rel related (first.find? test) (second.find? check) := by
  induction lists with
  | nil => exact .none
  | cons heads _ ih =>
      rw [List.find?_cons, List.find?_cons, same _ _ heads]
      split
      · exact .some heads
      · exact ih

theorem findSome? {results : γ → δ → Prop} {search : α → Option γ} {seek : β → Option δ}
    (same : ∀ value counterpart, related value counterpart →
      Option.Rel results (search value) (seek counterpart))
    (lists : List.Forall₂ related first second) :
    Option.Rel results (first.findSome? search) (second.findSome? seek) := by
  induction lists with
  | nil => exact .none
  | cons heads _ ih =>
      rw [List.findSome?_cons, List.findSome?_cons]
      rcases absent_or_present (same _ _ heads) with
        ⟨absent, absentToo⟩ | ⟨_, _, found, other, values⟩
      · rw [absent, absentToo]
        exact ih
      · rw [found, other]
        exact .some values

end Lists

/-! ## Runs of tokens -/

section Runs

variable {first second : List Token}

/-- Expressions of paired tokens end at the same index. -/
theorem captured (runs : pairing.Runs first second) (depth : Nat) :
    pairing.Runs (captured depth first) (captured depth second) := by
  induction runs generalizing depth with
  | nil => exact .nil
  | @cons token other rest behind pairs _ ih =>
      have kind := (pairing.alike pairs).kind
      rw [NumericLanguage.captured, NumericLanguage.captured, kind]
      split
      · exact .nil
      · exact .cons pairs (ih _)

/-- Statements of paired tokens are skipped up to the same index. -/
theorem skipped (runs : pairing.Runs first second) (depth : Nat) :
    pairing.Runs (skipped depth first) (skipped depth second) := by
  induction runs generalizing depth with
  | nil => cases depth <;> exact .nil
  | @cons token other rest behind pairs _ ih =>
      have kind := (pairing.alike pairs).kind
      cases depth with
      | zero =>
          rw [NumericLanguage.skipped, NumericLanguage.skipped, kind]
          split
          · exact .nil
          · split
            · exact .cons pairs .nil
            · split <;> exact .cons pairs (ih _)
      | succ depth =>
          rw [NumericLanguage.skipped, NumericLanguage.skipped, kind]
          split
          · split
            · exact .cons pairs .nil
            · exact .cons pairs (ih _)
          · split <;> exact .cons pairs (ih _)

/-- Boundaries among paired tokens are at the same index. -/
theorem discarded {previous behind : Option Token}
    (before : Option.Rel pairing.Pairs previous behind) (runs : pairing.Runs first second) :
    pairing.Runs (discarded previous first) (discarded behind second) := by
  induction runs generalizing previous behind with
  | nil => exact .nil
  | @cons token other rest following pairs _ ih =>
      have same : isBoundary previous token = isBoundary behind other := by
        have kind := (pairing.alike pairs).kind
        cases before with
        | none => simp [isBoundary, kind]
        | some pairsToo => simp [isBoundary, kind, (pairing.alike pairsToo).kind]
      rw [NumericLanguage.discarded, NumericLanguage.discarded, same]
      split
      · exact .nil
      · exact .cons pairs (ih (.some pairs))

theorem spelledOut (runs : pairing.Runs first second) :
    Token.spelledOut first = Token.spelledOut second := by
  have lexemes : first.map Token.lexeme = second.map Token.lexeme := by
    induction runs with
    | nil => rfl
    | cons pairs _ ih => rw [List.map_cons, List.map_cons, (pairing.alike pairs).lexeme, ih]
  rw [Token.spelledOut, Token.spelledOut, lexemes]

/-- Whether a run holds a token of some kinds does not depend on places. -/
theorem any_kind (runs : pairing.Runs first second) (test : TokenKind → Bool) :
    (first.any fun token => test token.kind) = second.any fun token => test token.kind :=
  any_eq (fun _ _ pairs => congrArg test (pairing.alike pairs).kind) runs

end Runs

/-! ## Streams -/

namespace Streams

variable {first second : TokenStream}

theorem position (streams : pairing.Streams first second) : first.position = second.position :=
  streams.consumed.length_eq

theorem atEnd (streams : pairing.Streams first second) : first.atEnd = second.atEnd := by
  rw [TokenStream.atEnd, TokenStream.atEnd, Bool.eq_iff_iff, List.isEmpty_iff_length_eq_zero,
    List.isEmpty_iff_length_eq_zero, streams.rest.length_eq]

/-- The next tokens are paired, also where the input ends. -/
theorem peek (streams : pairing.Streams first second) : pairing.Pairs first.peek second.peek :=
  getD (head? streams.rest) streams.stop

theorem previous (streams : pairing.Streams first second) :
    pairing.Pairs first.previous second.previous :=
  getD (head? streams.consumed) streams.peek

/-- Whether the next token is of some kinds does not depend on its place. -/
theorem any_head? (streams : pairing.Streams first second) (test : TokenKind → Bool) :
    (first.rest.head?.any fun token => test token.kind) =
      second.rest.head?.any fun token => test token.kind :=
  option_any_eq (head? streams.rest) fun _ _ pairs => congrArg test (pairing.alike pairs).kind

theorem startsWith (streams : pairing.Streams first second) (kind : TokenKind) :
    first.startsWith kind = second.startsWith kind :=
  streams.any_head? fun found => found = kind

theorem atTypeName (streams : pairing.Streams first second) :
    first.atTypeName = second.atTypeName :=
  streams.any_head? TokenKind.isTypeName

theorem moveOver (streams : pairing.Streams first second) (count : Nat) :
    pairing.Streams (first.moveOver count) (second.moveOver count) where
  consumed := List.rel_append
    (List.forall₂_reverse_iff.mpr (List.forall₂_take count streams.rest)) streams.consumed
  rest := List.forall₂_drop count streams.rest
  stop := streams.stop

theorem resumed (streams : pairing.Streams first second) :
    pairing.Streams first.resumed second.resumed := by
  have passed := discarded (head? streams.consumed) streams.rest
  rw [TokenStream.resumed, TokenStream.resumed, passed.length_eq]
  exact streams.moveOver _

theorem rewound (streams : pairing.Streams first second) :
    pairing.Streams first.rewound second.rewound where
  consumed := .nil
  rest := List.rel_append (List.forall₂_reverse_iff.mpr streams.consumed) streams.rest
  stop := streams.stop

end Streams

/-! ## Scopes and tables -/

/-- A value may be stored in a declaration of a name. -/
theorem Declarations.storeValue {first second : Declaration}
    (related : pairing.Declarations first second) (name : String) (value : Option Literal) :
    pairing.Declarations (if first.name = name then { first with value := value } else first)
      (if second.name = name then { second with value := value } else second) := by
  rw [related.name]
  split
  · exact ⟨rfl, related.type, related.scope, rfl, related.place⟩
  · exact related

namespace Scopes

variable {first second : Scope}

theorem find? (scopes : pairing.Scopes first second) (name : String) :
    Option.Rel pairing.Declarations (first.find? name) (second.find? name) :=
  Pairing.find? (fun _ _ related => by rw [related.name]) scopes.declarations

theorem add (scopes : pairing.Scopes first second) {declaration other : Declaration}
    (related : pairing.Declarations declaration other) :
    pairing.Scopes (first.add declaration) (second.add other) where
  name := scopes.name
  depth := scopes.depth
  declarations := List.rel_append scopes.declarations (.cons related .nil)

theorem storeValue (scopes : pairing.Scopes first second) (name : String)
    (value : Option Literal) :
    pairing.Scopes (first.storeValue name value) (second.storeValue name value) where
  name := scopes.name
  depth := scopes.depth
  declarations := List.rel_map (fun _ _ related => related.storeValue name value)
    scopes.declarations

end Scopes

namespace Tables

variable {first second : ScopeTable}

theorem stack (tables : pairing.Tables first second) :
    List.Forall₂ pairing.Scopes first.stack second.stack :=
  .cons tables.current tables.enclosing

/-- A name means the same declaration. -/
theorem lookup (tables : pairing.Tables first second) (name : String) :
    Option.Rel pairing.Declarations (first.lookup name) (second.lookup name) :=
  findSome? (fun _ _ scopes => scopes.find? name) tables.stack

theorem isVisible (tables : pairing.Tables first second) (name : String) :
    first.isVisible name = second.isVisible name :=
  isSome_eq (tables.lookup name)

theorem isDoubleVariable (tables : pairing.Tables first second) {token other : Token}
    (pairs : pairing.Pairs token other) :
    first.isDoubleVariable token = second.isDoubleVariable other := by
  have alike := pairing.alike pairs
  have double := option_any_eq (tables.lookup other.lexeme) fun declaration counterpart related =>
    congrArg (fun type => decide (type = ValueType.double)) related.type
  rw [ScopeTable.isDoubleVariable, ScopeTable.isDoubleVariable, alike.kind, alike.lexeme, double]

/-- An expression has the same type. -/
theorem infer (tables : pairing.Tables first second) {expression other : List Token}
    (runs : pairing.Runs expression other) : first.infer expression = second.infer other := by
  have doubles : expression.any first.isDoubleVariable = other.any second.isDoubleVariable :=
    any_eq (fun _ _ => tables.isDoubleVariable) runs
  rw [ScopeTable.infer, ScopeTable.infer, any_kind runs fun kind => kind = .string,
    any_kind runs fun kind => kind = .real, doubles]

theorem enter (tables : pairing.Tables first second) :
    pairing.Tables first.enter second.enter where
  current := ⟨by rw [ScopeTable.enter, ScopeTable.enter, tables.opened], tables.stack.length_eq,
    .nil⟩
  enclosing := tables.stack
  opened := congrArg (· + 1) tables.opened

theorem storeValue (tables : pairing.Tables first second) (name : String)
    (value : Option Literal) :
    pairing.Tables (first.storeValue name value) (second.storeValue name value) where
  current := tables.current.storeValue name value
  enclosing := tables.enclosing
  opened := tables.opened

end Tables

end Pairing

end NumericLanguage
