import NumericLanguage.Proofs.Analysis.Invariance
import NumericLanguage.Proofs.Scoping.Nesting

/-!
# Where declarations come from

A declaration is made as soon as its type and its name are read, and it stays when the statement
around it is abandoned, or the declaration itself. So what is declared in the end cannot be told
from the statements of a report. It can be told from the tokens: every declaration reads a type and
a name that stand next to each other (`Declaration.StandsAt`), and it shows a value only if a single
number stands behind a sign there. The declarations of a scope stand in their order. Whoever is
warned of a redeclaration finds the name at such a pair, and the same name at an earlier one
(`Redeclares`).

The invariant says this of all open scopes and of all warnings so far (`Declared`); that no name is
declared twice in a scope, and that declarations carry the name of their scope, comes from the shape
of the table. It holds through all readings, whether they are in the grammar or not.
-/

set_option autoImplicit false

namespace NumericLanguage

/-! ## Pairs of tokens -/

/-- The type that a token stands for. -/
def TokenKind.declaredType? : TokenKind → Option ValueType
  | keyword .longType => some .long
  | keyword .doubleType => some .double
  | _ => none

/-- A type and a name next to each other. -/
structure PairAt (tokens : List Token) (index : Nat) (type : ValueType) (typeToken name : Token) :
    Prop where
  typeAt : tokens[index]? = some typeToken
  isType : typeToken.kind.declaredType? = some type
  nameAt : tokens[index + 1]? = some name
  isName : name.kind = .identifier

/-- A single number behind a sign and in front of a sign that ends an expression, or in front of the
end of the input. -/
def NumberAt (tokens : List Token) (index : Nat) (value : Literal) : Prop :=
  ∃ sign number behind, tokens[index]? = some sign ∧ sign.kind = .operator .assign ∧
    tokens[index + 1]? = some number ∧ (number.kind = .integer ∨ number.kind = .real) ∧
    number.value = some value ∧
    tokens[index + 2]? = some behind ∧
    behind.kind ∈ [.operator .rightParen, .operator .semicolon, .operator .rightBrace, .endOfInput]

/-- A declaration that reads a type and a name, and the number behind them if it has a value. -/
structure Declaration.StandsAt (tokens : List Token) (index : Nat) (declaration : Declaration) :
    Prop where
  pair : ∃ typeToken name, PairAt tokens index declaration.type typeToken name ∧
    declaration.line = typeToken.location.line ∧ declaration.name = name.lexeme ∧
    declaration.location = name.location
  value : ∀ value ∈ declaration.value, NumberAt tokens (index + 2) value

/-- A warning at a name behind a type, which cites the line of an earlier pair with this name. -/
def Redeclares (tokens : List Token) (warning : Diagnostic) : Prop :=
  ∃ earlier later firstType type firstToken firstName typeToken name, earlier < later ∧
    PairAt tokens earlier firstType firstToken firstName ∧
    PairAt tokens later type typeToken name ∧
    firstName.lexeme = name.lexeme ∧ warning.location = name.location ∧
    warning.message = "variable '" ++ name.lexeme ++ "' was already declared in this scope (line " ++
      toString firstToken.location.line ++ ")"

/-- Declarations that stand one behind the other, in front of an index. -/
def StandInOrder (tokens : List Token) (high : Nat) (declarations : List Declaration) : Prop :=
  ∃ indices : List Nat, indices.Pairwise (· < ·) ∧ (∀ index ∈ indices, index + 1 < high) ∧
    List.Forall₂ (Declaration.StandsAt tokens) indices declarations

namespace StandInOrder

variable {tokens : List Token} {high higher index : Nat} {declarations : List Declaration}
  {declaration : Declaration}

theorem nil : StandInOrder tokens high [] := ⟨[], .nil, nofun, .nil⟩

theorem mono (inOrder : StandInOrder tokens high declarations) (more : high ≤ higher) :
    StandInOrder tokens higher declarations := by
  obtain ⟨indices, ascending, below, stand⟩ := inOrder
  exact ⟨indices, ascending, fun index inside => Nat.lt_of_lt_of_le (below index inside) more,
    stand⟩

/-- A declaration further on stands behind the others. -/
theorem add (inOrder : StandInOrder tokens index declarations)
    (stands : declaration.StandsAt tokens index) :
    StandInOrder tokens (index + 2) (declarations ++ [declaration]) := by
  obtain ⟨indices, ascending, below, stand⟩ := inOrder
  refine ⟨indices ++ [index], ?_, ?_, List.rel_append stand (.cons stands .nil)⟩
  · rw [List.pairwise_append]
    refine ⟨ascending, List.pairwise_singleton _ _, fun earlier inside last isLast => ?_⟩
    cases List.mem_singleton.mp isLast
    exact Nat.lt_of_succ_lt (below earlier inside)
  · intro earlier inside
    rcases List.mem_append.mp inside with before | isLast
    · exact Nat.lt_of_lt_of_le (below earlier before) (Nat.le_add_right _ _)
    · cases List.mem_singleton.mp isLast
      exact Nat.lt_succ_self _

/-- Each of the declarations stands in front of the index. -/
theorem exists_index (inOrder : StandInOrder tokens high declarations)
    (inside : declaration ∈ declarations) :
    ∃ index, index + 1 < high ∧ declaration.StandsAt tokens index := by
  obtain ⟨indices, -, below, stand⟩ := inOrder
  obtain ⟨position, bound, rfl⟩ := List.getElem_of_mem inside
  have length := stand.length_eq
  exact ⟨indices[position], below _ (List.getElem_mem _), stand.get _ _⟩

end StandInOrder

/-! ## Declarations and their effect -/

/-- Behind a block only scopes are open that were open inside. -/
theorem ScopeTable.mem_stack_of_leave {table left : ScopeTable} {scope other : Scope}
    (leaves : table.leave = .ok (scope, left)) (inside : other ∈ left.stack) :
    other ∈ table.stack := by
  obtain ⟨current, enclosing, opened⟩ := table
  cases enclosing with
  | nil => cases leaves
  | cons outer others =>
      cases leaves
      exact List.mem_cons_of_mem _ inside

namespace ParseTree

variable (policy : RedeclarationPolicy) (typeToken name : Token) (type : ValueType)
  (initial : Option (List Token)) {findings : Findings}

/-- A new name is added to the innermost scope, with the value of a single number. -/
theorem declarationEffect_of_new (isNew : findings.table.current.find? name.lexeme = none) :
    (declarationEffect policy typeToken name type initial findings).2.table =
        { findings.table with
          current := findings.table.current.add
            ⟨name.lexeme, type, typeToken.location.line, findings.table.current.name,
              (Parse.initialValue (initial.getD [])).join, name.location⟩ } ∧
      (declarationEffect policy typeToken name type initial findings).2.diagnostics =
        findings.diagnostics := by
  simp only [declarationEffect, Findings.declare, ScopeTable.declare, isNew, if_true,
    Findings.storeInitialValue]
  cases Parse.initialValue (initial.getD []) with
  | none => exact ⟨rfl, rfl⟩
  | some value =>
      refine ⟨congrArg (ScopeTable.mk · _ _) ?_, rfl⟩
      exact Scope.storeValue_add isNew value

/-- A name that the innermost scope declares is not declared again. -/
theorem declarationEffect_of_existing {existing : Declaration}
    (found : findings.table.current.find? name.lexeme = some existing) :
    (declarationEffect policy typeToken name type initial findings).2 =
      findings.redeclare policy ⟨name.lexeme, name.location, existing⟩ := by
  simp only [declarationEffect, Findings.declare, ScopeTable.declare, found]
  rfl

end ParseTree

/-- An initial value that is shown is a single number. -/
theorem exists_of_initialValue {expression : List Token} {value : Literal}
    (shown : (Parse.initialValue expression).join = some value) :
    ∃ number, expression = [number] ∧ (number.kind = .integer ∨ number.kind = .real) ∧
      number.value = some value := by
  unfold Parse.initialValue at shown
  split at shown
  · rename_i number
    split at shown
    · rename_i isNumber
      refine ⟨number, rfl, ?_, shown⟩
      unfold TokenKind.isNumericLiteral at isNumber
      split at isNumber <;> simp_all
    · cases shown
  · cases shown

/-- What a declaration shows as its value is a single number behind the sign. -/
theorem DeclarationAt.numberAt {tokens : List Token} {index : Nat} {typeToken name : Token}
    {type : ValueType} {initial : Option (List Token)} {value : Literal}
    (declaration : DeclarationAt tokens index typeToken name type initial)
    (shown : (Parse.initialValue (initial.getD [])).join = some value) :
    NumberAt tokens (index + 2) value := by
  cases initial with
  | none => cases shown
  | some expression =>
      obtain ⟨⟨sign, signAt, isSign⟩, expressionAt⟩ := declaration.initialAt expression rfl
      obtain ⟨number, rfl, isNumber, hasValue⟩ := exists_of_initialValue shown
      obtain ⟨behind, behindAt, ends⟩ := expressionAt.ends
      refine ⟨sign, number, behind, signAt, isSign, expressionAt.inside 0 number rfl, isNumber,
        hasValue, behindAt, ?_⟩
      rcases ends with ends | ends
      · rcases TokenKind.endsExpression_iff.mp ends with paren | semicolon | brace <;> simp [*]
      · simp [ends]

/-! ## The invariant -/

/-- What is known of what has been found up to an index of the tokens. -/
structure Declared (tokens : List Token) (high : Nat) (findings : Findings) : Prop where
  wellFormed : findings.table.WellFormed
  standing : ∀ scope ∈ findings.table.stack, StandInOrder tokens high scope.declarations
  warned : ∀ diagnostic ∈ findings.diagnostics, diagnostic.code = some "S011" →
    Redeclares tokens diagnostic

namespace Declared

variable {tokens : List Token} {index : Nat} {findings after : Findings}

/-- More diagnostics do no harm if none of them warns of a redeclaration. -/
theorem record (before : Declared tokens index findings) {diagnostic : Diagnostic}
    (other : diagnostic.code ≠ some "S011") :
    Declared tokens index (findings.record diagnostic) where
  wellFormed := before.wellFormed
  standing := before.standing
  warned := by
    intro warning inside isWarning
    rcases List.mem_append.mp inside with earlier | last
    · exact before.warned warning earlier isWarning
    · cases List.mem_singleton.mp last
      exact absurd isWarning other

theorem checked (before : Declared tokens index findings) (checked : findings.Checked after) :
    Declared tokens index after := by
  cases checked with
  | passed => exact before
  | reported fault token other =>
      refine before.record ?_
      cases fault with
      | redeclared name line => exact absurd rfl (other name line)
      | _ => simp [SemanticFault.diagnostic, SemanticFault.diagnosticAs, SemanticFault.code]

theorem rejected (before : Declared tokens index findings) (rejection : Rejection) :
    Declared tokens index (findings.record rejection.diagnostic) := by
  refine before.record ?_
  obtain ⟨fault, found⟩ := rejection
  cases fault <;> simp [Rejection.diagnostic, SyntaxFault.code]

theorem enter (before : Declared tokens index findings) :
    Declared tokens index findings.enter where
  wellFormed := before.wellFormed.enter
  standing := by
    intro scope inside
    rcases List.mem_cons.mp inside with rfl | outside
    · exact .nil
    · exact before.standing scope outside
  warned := before.warned

theorem leave (before : Declared tokens index findings) :
    Declared tokens index findings.leave := by
  cases leaves : findings.table.leave with
  | error fault =>
      rw [Findings.leave, leaves]
      exact before
  | ok outcome =>
      rw [Findings.leave, leaves]
      refine ⟨before.wellFormed.leave leaves, fun scope inside => ?_, before.warned⟩
      exact before.standing scope (ScopeTable.mem_stack_of_leave leaves inside)

theorem moved {further : Nat} (before : Declared tokens index findings) (bound : index ≤ further) :
    Declared tokens further findings where
  wellFormed := before.wellFormed
  standing scope inside := (before.standing scope inside).mono bound
  warned := before.warned

/-- A warning of a redeclaration may be recorded where the tokens bear it out. -/
theorem redeclare (policy : RedeclarationPolicy) {redeclaration : Redeclaration}
    (before : Declared tokens index findings)
    (redeclares : ∀ severity, Redeclares tokens (redeclaration.diagnosticAs severity)) :
    Declared tokens index (findings.redeclare policy redeclaration) := by
  cases reported : policy.reported with
  | false =>
      simp only [Findings.redeclare, reported]
      exact ⟨before.wellFormed, before.standing, before.warned⟩
  | true =>
      simp only [Findings.redeclare, reported, if_true]
      refine ⟨before.wellFormed, before.standing, fun diagnostic inside isWarning => ?_⟩
      rcases List.mem_append.mp inside with earlier | last
      · exact before.warned diagnostic earlier isWarning
      · cases List.mem_singleton.mp last
        exact redeclares _

/-- A declaration is added behind the others, or the name is found at an earlier one. -/
theorem declare (policy : RedeclarationPolicy) {typeToken name : Token} {type : ValueType}
    {initial : Option (List Token)} (before : Declared tokens index findings)
    (declaration : DeclarationAt tokens index typeToken name type initial)
    (isType : typeToken.kind.declaredType? = some type) :
    Declared tokens (index + 2)
      (ParseTree.declarationEffect policy typeToken name type initial findings).2 := by
  have pair : PairAt tokens index type typeToken name :=
    ⟨declaration.typeAt, isType, declaration.nameAt, declaration.isName⟩
  cases found : findings.table.current.find? name.lexeme with
  | none =>
      obtain ⟨table, diagnostics⟩ :=
        ParseTree.declarationEffect_of_new policy typeToken name type initial found
      refine ⟨?_, fun scope inside => ?_, fun diagnostic inside isWarning => ?_⟩
      · rw [table]
        exact before.wellFormed.replace rfl rfl (before.wellFormed.consistent.add found rfl)
      · rw [table] at inside
        rcases List.mem_cons.mp inside with rfl | outside
        · refine (before.standing _ List.mem_cons_self).add ?_
          exact ⟨⟨typeToken, name, pair, rfl, rfl, rfl⟩, fun value => declaration.numberAt⟩
        · exact (before.standing scope (List.mem_cons_of_mem _ outside)).mono (Nat.le_add_right _ _)
      · rw [diagnostics] at inside
        exact before.warned diagnostic inside isWarning
  | some existing =>
      rw [ParseTree.declarationEffect_of_existing policy typeToken name type initial found]
      obtain ⟨declared, sameName⟩ := before.wellFormed.consistent.find?_eq_some_iff.mp found
      obtain ⟨earlier, inFront, stands⟩ :=
        (before.standing _ List.mem_cons_self).exists_index declared
      obtain ⟨firstToken, firstName, firstPair, line, named, -⟩ := stands.pair
      refine (before.redeclare policy fun severity => ?_).moved (Nat.le_add_right _ _)
      refine ⟨earlier, index, _, _, firstToken, firstName, typeToken, name,
        Nat.lt_of_succ_lt inFront, firstPair, pair, named.symm.trans sameName, rfl, ?_⟩
      rw [← line]
      rfl

/-- Every change of the findings keeps the invariant, if the tokens stand for the types that they
spell. -/
theorem kept (policy : RedeclarationPolicy)
    (spelled : ∀ token ∈ tokens, ∀ type, token.kind.isTypeName = true →
      ValueType.ofWord token.lexeme = .ok type → token.kind.declaredType? = some type) :
    Findings.Kept policy tokens (Declared tokens) where
  moved := moved
  checked := checked
  rejected rejection before := before.rejected rejection
  entered := enter
  left := leave
  declared before declaration :=
    before.declare policy declaration <|
      spelled _ (List.mem_of_getElem? declaration.typeAt) _ declaration.isType declaration.spells

end Declared

/-- A keyword of a text that names a type spells it. -/
theorem declaredType?_of_mem_tokenize {file source : String} {token : Token} {type : ValueType}
    (inside : token ∈ (tokenize file source).tokens) (isType : token.kind.isTypeName = true)
    (spells : ValueType.ofWord token.lexeme = .ok type) : token.kind.declaredType? = some type := by
  rcases exists_scan_of_mem_tokenize inside with isEnd | ⟨head, rest, lexeme, form⟩
  · rw [isEnd] at isType
    cases isType
  · have spelling := spellsKeyword_scan head rest
    unfold TokenKind.isTypeName at isType
    split at isType
    · rename_i isLong
      rw [isLong] at form ⊢
      rw [lexeme, spelling _ _ form] at spells
      cases spells
      rfl
    · rename_i isDouble
      rw [isDouble] at form ⊢
      rw [lexeme, spelling _ _ form] at spells
      cases spells
      rfl
    · cases isType

/-! ## Analyses -/

section Analyses

variable (options : AnalysisOptions) (source : String)

/-- When parsing begins nothing is declared, and nothing is recorded but malformed text. -/
theorem declared_begun :
    Declared (tokenize options.file source).tokens 0 (options.begun source) where
  wellFormed := .empty
  standing := by
    intro scope inside
    cases List.mem_singleton.mp inside
    exact .nil
  warned := by
    intro diagnostic inside isWarning
    obtain ⟨fault, location, rfl⟩ := exists_fault_of_mem_tokenize inside
    cases fault <;> simp [LexicalFault.diagnostic, LexicalFault.code] at isWarning

/-- Every analysis has a report, with what is declared and recorded in the end. -/
theorem exists_declared :
    ∃ report high findings, analyze options source = .ok report ∧
      report.tokens = (tokenize options.file source).tokens ∧
      report.table = findings.table ∧ report.diagnostics = findings.diagnostics ∧
      Declared report.tokens high findings := by
  by_cases parses : options.Parses source
  · obtain ⟨readings, final, reads⟩ := exists_reads_of_source options.file source
    have kept : Findings.Kept options.redeclarations (tokenize options.file source).tokens
        (Declared (tokenize options.file source).tokens) :=
      Declared.kept options.redeclarations fun token inside type isType spells =>
        declaredType?_of_mem_tokenize inside isType spells
    exact ⟨_, _, _, analyze_of_reads reads parses, rfl, rfl, rfl,
      reads.keeps kept (.of_tokenize options.file source) (declared_begun options source)⟩
  · exact ⟨_, _, _, analyze_of_stop parses, rfl, rfl, rfl, declared_begun options source⟩

end Analyses

/-- **No declaration comes from nowhere.** What is declared in the global scope in the end stands in
the tokens, in their order: each declaration reads a type and a name next to each other, and its
value, if it has one, is a single number behind a sign there. A warning of a redeclaration stands at
the name of such a pair, and cites the line of an earlier one with this name. -/
theorem declarations_stand (options : AnalysisOptions) (source : String) :
    ∃ report, analyze options source = .ok report ∧
      report.tokens = (tokenize options.file source).tokens ∧
      (∃ indices : List Nat, indices.Pairwise (· < ·) ∧
        List.Forall₂ (Declaration.StandsAt report.tokens) indices
          report.table.global.declarations) ∧
      (∀ declaration ∈ report.table.global.declarations, declaration.scope = "global") ∧
      (report.table.global.declarations.map Declaration.name).Nodup ∧
      ∀ diagnostic ∈ report.diagnostics, diagnostic.code = some "S011" →
        Redeclares report.tokens diagnostic := by
  obtain ⟨report, high, findings, analysed, tokens, table, diagnostics, declared⟩ :=
    exists_declared options source
  refine ⟨report, analysed, tokens, ?_, ?_, ?_, ?_⟩
  · obtain ⟨indices, ascending, -, stand⟩ :=
      declared.standing findings.table.global (List.getLast_mem _)
    rw [table]
    exact ⟨indices, ascending, stand⟩
  · intro declaration inside
    rw [table] at inside
    rw [declared.wellFormed.consistent_global.tagged declaration inside,
      declared.wellFormed.name_global]
  · rw [table]
    exact declared.wellFormed.consistent_global.distinct
  · rw [diagnostics]
    exact declared.warned

end NumericLanguage
