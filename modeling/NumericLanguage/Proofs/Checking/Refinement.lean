import NumericLanguage.Proofs.Checking.Walk
import NumericLanguage.Proofs.Grammar.Acceptance
import NumericLanguage.Proofs.Reading.Diagnostics

/-!
# Checking on the way is checking afterwards

The parser checks names and types while it reads, some rules before the rest of a statement is read
and some behind it, and it finds the type of a loop's condition behind its body. On a derivable
program all of this comes to the same as reading first and walking over the derivation tree
afterwards (`program_checks`). The table of scopes stands for the environment of the walk at each
node, and a block gives back the table that it found.
-/

set_option autoImplicit false

namespace NumericLanguage

open Parse

/-! ## Tables as environments -/

/-- What a declaration binds its name to. -/
def Declaration.binding (declaration : Declaration) : Binding where
  name := declaration.name
  type := declaration.type
  line := declaration.line
  location := declaration.location
  value := declaration.value

namespace Scope

/-- The frame of a scope. -/
def frame (scope : Scope) : List Binding := scope.declarations.map Declaration.binding

theorem inFrame_frame (scope : Scope) (name : String) :
    Environment.inFrame scope.frame name = (scope.find? name).map Declaration.binding := by
  rw [Environment.inFrame, frame, find?, List.find?_map]
  rfl

theorem frame_add (scope : Scope) (declaration : Declaration) :
    (scope.add declaration).frame = scope.frame ++ [declaration.binding] := by
  rw [frame, add, List.map_append]
  rfl

end Scope

namespace ScopeTable

variable (table : ScopeTable)

/-- The environment of a table. -/
def environment : Environment := table.stack.map Scope.frame

theorem lookup_environment (name : String) :
    table.environment.lookup name = (table.lookup name).map Declaration.binding := by
  rw [Environment.lookup, environment, List.findSome?_map, lookup, List.map_findSome?]
  congr 1
  funext scope
  exact scope.inFrame_frame name

theorem lookupInnermost_environment (name : String) :
    table.environment.lookupInnermost name =
      (table.current.find? name).map Declaration.binding :=
  table.current.inFrame_frame name

theorem makesDouble_environment (token : Token) :
    table.environment.makesDouble token =
      (decide (token.kind = .real) || table.isDoubleVariable token) := by
  rw [Environment.makesDouble, isDoubleVariable, lookup_environment]
  cases table.lookup token.lexeme <;> rfl

/-- A stored value changes no type. -/
theorem type_lookup_storeValue (name : String) (value : Option Literal) (other : String) :
    ((table.storeValue name value).lookup other).map Declaration.type =
      (table.lookup other).map Declaration.type := by
  have found : ((table.current.storeValue name value).find? other).map Declaration.type =
      (table.current.find? other).map Declaration.type := by
    have same : ((fun declaration : Declaration => decide (declaration.name = other)) ∘
        fun declaration => if declaration.name = name then { declaration with value := value }
          else declaration) = fun declaration => decide (declaration.name = other) := by
      funext declaration
      dsimp only [Function.comp_apply]
      split <;> rfl
    rw [Scope.find?, Scope.storeValue, List.find?_map, same, Option.map_map]
    refine Option.map_congr ?_
    intro declaration _
    dsimp only [Function.comp_apply]
    split <;> rfl
  simp only [lookup, stack, storeValue, List.findSome?_cons]
  cases before : table.current.find? other <;>
    cases behind : (table.current.storeValue name value).find? other <;>
    simp_all

theorem infer_storeValue (name : String) (value : Option Literal) (expression : List Token) :
    (table.storeValue name value).infer expression = table.infer expression := by
  have double (found : Option Declaration) :
      (found.any fun declaration => declaration.type = .double) =
        (found.map Declaration.type).any fun type => type = .double := by
    cases found <;> rfl
  have same : (table.storeValue name value).isDoubleVariable = table.isDoubleVariable := by
    funext token
    rw [isDoubleVariable, isDoubleVariable, double, type_lookup_storeValue, ← double]
  rw [infer, infer, same]

theorem typeOf_environment (expression : List Token) :
    table.environment.typeOf expression = table.infer expression := by
  have either : expression.any table.environment.makesDouble =
      ((expression.any fun token => token.kind = .real) ||
        expression.any table.isDoubleVariable) := by
    induction expression with
    | nil => rfl
    | cons token others ih =>
        simp only [List.any_cons, makesDouble_environment, ih]
        cases decide (token.kind = .real) <;> cases table.isDoubleVariable token <;> simp
  rw [Environment.typeOf, infer, either]
  cases (expression.any fun token => token.kind = .real) <;> rfl

end ScopeTable

/-! ## Findings as walks -/

namespace Findings

variable (findings : Findings) (policy : RedeclarationPolicy)

/-- Where the walk stands that has found the same. -/
def walk : Walk := ⟨findings.table.environment, findings.diagnostics⟩

theorem walk_checkName (name : Token) :
    (findings.checkName name).walk = findings.walk.use name := by
  have same := findings.table.lookup_environment name.lexeme
  unfold checkName Walk.use
  cases visible : findings.table.lookup name.lexeme with
  | none =>
      rw [visible] at same
      simp only [walk, same, Option.map_none, Option.isNone_none, if_true]
      rfl
  | some declaration =>
      rw [visible] at same
      simp only [walk, same, Option.map_some]
      rfl

theorem walk_checkLeadingName (expression : List Token) :
    (findings.checkLeadingName expression).walk = findings.walk.useLeading expression := by
  cases expression with
  | nil => rfl
  | cons first others =>
      simp only [checkLeadingName, Walk.useLeading]
      split
      · exact findings.walk_checkName first
      · rfl

theorem walk_checkCondition (keyword : Token) (condition : List Token) :
    (findings.checkCondition keyword condition (findings.table.infer condition)).walk =
      findings.walk.checkCondition keyword condition := by
  unfold checkCondition Walk.checkCondition
  simp only [walk, findings.table.typeOf_environment condition]
  cases findings.table.infer condition <;> rfl

theorem walk_checkAssignment (target : Token) (value : List Token) :
    (findings.checkAssignment target (findings.table.infer value)).walk =
      findings.walk.assign target value := by
  have same := findings.table.lookup_environment target.lexeme
  have type := findings.table.typeOf_environment value
  unfold checkAssignment Walk.assign
  cases visible : findings.table.lookup target.lexeme with
  | none =>
      rw [visible] at same
      simp only [walk, same, Option.map_none]
      rfl
  | some declaration =>
      rw [visible] at same
      simp only [walk, same, type, Option.map_some, Declaration.binding, ValueType.narrows]
      cases declaration.type <;> cases findings.table.infer value <;> rfl

theorem walk_leave {inside : Findings} (entered : inside.table.enclosing ≠ []) :
    inside.leave.walk = inside.walk.pop := by
  obtain ⟨⟨current, _ | ⟨outer, others⟩, opened⟩, diagnostics, journal⟩ := inside
  · exact absurd rfl entered
  · rfl

/-- The value of a single number is stored in the declaration that was just made. -/
theorem walk_storeInitialValue {declaration : Declaration} (name : Token) (initial : List Token)
    (isNew : findings.table.current.find? declaration.name = none)
    (same : declaration.name = name.lexeme) (noValue : declaration.value = none) :
    ({ findings with
        table := { findings.table with current := findings.table.current.add declaration }
        : Findings }.storeInitialValue name initial).walk =
      { findings.walk with
        environment := findings.walk.environment.extend
          { declaration.binding with value := (Parse.initialValue initial).join } } := by
  unfold storeInitialValue
  cases Parse.initialValue initial with
  | none =>
      simp only [walk, ScopeTable.environment, ScopeTable.stack, List.map_cons, Scope.frame_add,
        Environment.extend, Option.join_none, Declaration.binding, noValue]
  | some value =>
      simp only [walk, ScopeTable.storeValue, ScopeTable.environment, ScopeTable.stack,
        List.map_cons, ← same, Scope.storeValue_add isNew, Scope.frame_add, Environment.extend,
        Option.join_some, Declaration.binding]

theorem walk_declarationEffect (typeToken name : Token) (type : ValueType)
    (initial : Option (List Token)) :
    (ParseTree.declarationEffect policy typeToken name type initial findings).2.walk =
      findings.walk.declare policy typeToken name type (initial.getD []) := by
  have same := findings.table.lookupInnermost_environment name.lexeme
  unfold ParseTree.declarationEffect declare ScopeTable.declare Walk.declare
  cases known : findings.table.current.find? name.lexeme with
  | some existing =>
      rw [known] at same
      simp only [walk, same, Option.map_some, redeclare]
      cases policy.reported <;> rfl
  | none =>
      rw [known] at same
      simp only [walk, same, Option.map_none]
      exact (findings.note (.declared name.lexeme type
        findings.table.current.name)).walk_storeInitialValue name (initial.getD []) known rfl rfl

/-- The value that a declaration stores changes no type. -/
theorem infer_declarationEffect (typeToken name : Token) (type : ValueType)
    (initial : Option (List Token)) (expression : List Token) :
    (ParseTree.declarationEffect policy typeToken name type initial findings).2.table.infer
        expression =
      (findings.declare policy type typeToken.location.line name).2.table.infer expression := by
  simp only [ParseTree.declarationEffect]
  split
  · unfold storeInitialValue
    split
    · exact ScopeTable.infer_storeValue _ _ _ _
    · rfl
  · rfl

end Findings

/-! ## Derivations as walks -/

namespace ParseTree

variable (policy : RedeclarationPolicy)

/-- A block gives back the scopes that it found. -/
theorem effect_block_stack (opening : Token) (items : List ParseTree) (missing : Option Token)
    (findings : Findings) :
    ((block opening items missing).effect policy findings).2.table.stack =
      findings.table.stack := by
  have inside : (close opening missing (effectAll policy items findings.enter).2).table.enclosing =
      findings.table.stack := by
    rw [table_close, effectAll_enclosing]
    rfl
  rw [effect]
  generalize close opening missing (effectAll policy items findings.enter).2 = found at *
  obtain ⟨⟨current, enclosing, opened⟩, diagnostics, journal⟩ := found
  cases inside
  rfl

end ParseTree

section Refinement

variable (policy : RedeclarationPolicy)

/-- The effect of a reading is a record and the findings of a walk. -/
def Walks (outcome : Except Rejection Statement × Findings) (checked : Statement × Walk) : Prop :=
  outcome.1 = .ok checked.1 ∧ outcome.2.walk = checked.2

mutual
/-- **The effect of a derivable statement is that of a walk over its tree.** -/
theorem DerivesStatement.walks : ∀ {tree : SyntaxTree} {input rest : List Token},
    DerivesStatement tree input rest → ∀ findings : Findings,
      Walks (tree.reading.effect policy findings) (tree.check policy findings.walk)
  | _, _, _, .read .., findings => by
      refine ⟨?_, findings.walk_checkName _⟩
      simp only [SyntaxTree.reading, ParseTree.effect, SyntaxTree.check, Findings.walk,
        ScopeTable.lookup_environment, Option.map_map]
      rfl
  | _, _, _, .write .., findings => by
      refine ⟨?_, findings.walk_checkLeadingName _⟩
      simp only [SyntaxTree.reading, ParseTree.effect, SyntaxTree.check, Findings.walk,
        ScopeTable.typeOf_environment, Findings.table_checkLeadingName]
  | _, _, _, @DerivesStatement.ifThen keyword _ _ _ condition _ _ _ _ _ _ _ _ consequence _,
      findings => by
      have inside := consequence.walks (findings.checkCondition keyword condition
        (findings.table.infer condition))
      rw [findings.walk_checkCondition] at inside
      refine ⟨?_, inside.2⟩
      simp only [SyntaxTree.reading, ParseTree.effect, SyntaxTree.check, inside.1, Findings.walk,
        ScopeTable.typeOf_environment]
      rfl
  | _, _, _, @DerivesStatement.ifThenElse keyword _ _ _ _ condition _ _ _ first _ _ _ _ _ _
      consequence _ alternative, findings => by
      have inside := consequence.walks (findings.checkCondition keyword condition
        (findings.table.infer condition))
      rw [findings.walk_checkCondition] at inside
      have other := alternative.walks (first.reading.effect policy
        (findings.checkCondition keyword condition (findings.table.infer condition))).2
      rw [inside.2] at other
      refine ⟨?_, other.2⟩
      simp only [SyntaxTree.reading, ParseTree.effect, SyntaxTree.check, inside.1, other.1,
        Findings.walk, ScopeTable.typeOf_environment]
      rfl
  | _, _, _, @DerivesStatement.loop _ _ _ condition _ _ tree _ _ _ _ body, findings => by
      have inside := body.walks findings
      refine ⟨?_, inside.2⟩
      -- The condition is typed behind the block, in the scopes from before.
      have same : (tree.reading.effect policy findings).2.table.infer condition =
          findings.walk.environment.typeOf condition := by
        cases body with
        | @braces opening _ items =>
            rw [← ScopeTable.typeOf_environment, ScopeTable.environment, SyntaxTree.reading,
              ParseTree.effect_block_stack]
            rfl
      simp only [SyntaxTree.reading, ParseTree.effect, SyntaxTree.check, inside.1, same]
      rfl
  | _, _, _, .block block, findings => block.walks findings
  | _, _, _, @DerivesStatement.expression _ tokens _ _ _ _, findings => by
      simp only [SyntaxTree.reading, ParseTree.effect, ParseTree.expressionEffect, SyntaxTree.check]
      cases Parse.assignment? tokens with
      | none =>
          refine ⟨?_, rfl⟩
          simp only [Findings.walk, ScopeTable.typeOf_environment]
      | some parts =>
          obtain ⟨target, value⟩ := parts
          refine ⟨?_, findings.walk_checkAssignment target value⟩
          simp only [Findings.walk, ScopeTable.typeOf_environment]

theorem DerivesBlock.walks : ∀ {tree : SyntaxTree} {input rest : List Token},
    DerivesBlock tree input rest → ∀ findings : Findings,
      Walks (tree.reading.effect policy findings) (tree.check policy findings.walk)
  | _, _, _, @DerivesBlock.braces _ _ items _ _ _ derives _, findings => by
      obtain ⟨statements, walked⟩ := derives.walks findings.enter
      have entered : (ParseTree.effectAll policy (SyntaxTree.readingAll items)
          findings.enter).2.table.enclosing ≠ [] := by
        rw [ParseTree.effectAll_enclosing]
        exact List.cons_ne_nil _ _
      refine ⟨?_, ?_⟩
      · simp only [SyntaxTree.reading, ParseTree.effect, SyntaxTree.check, statements]
        rfl
      · exact (Findings.walk_leave entered).trans (congrArg Walk.pop walked)

theorem DerivesItem.walks : ∀ {tree : SyntaxTree} {input rest : List Token},
    DerivesItem tree input rest → ∀ findings : Findings,
      Walks (tree.reading.effect policy findings) (tree.check policy findings.walk)
  | _, _, _, .declaration _ _ _ _, findings =>
      ⟨rfl, findings.walk_declarationEffect policy _ _ _ none⟩
  | _, _, _, @DerivesItem.initialized typeToken name _ _ type initial _ _ _ _ _ _ _, findings => by
      have walked := findings.walk_declarationEffect policy typeToken name type (some initial)
      refine ⟨?_, walked⟩
      simp only [SyntaxTree.reading, ParseTree.effect, SyntaxTree.check]
      rw [← walked, ParseTree.declarationEffect, Option.map_some, Option.map_some,
        ← findings.infer_declarationEffect policy typeToken name type (some initial) initial,
        ← ScopeTable.typeOf_environment]
      rfl
  | _, _, _, .statement _ statement, findings => statement.walks findings

theorem DerivesItems.walks : ∀ {trees : List SyntaxTree} {input rest : List Token},
    DerivesItems trees input rest → ∀ findings : Findings,
      (ParseTree.effectAll policy (SyntaxTree.readingAll trees) findings).1 =
          (SyntaxTree.checkAll policy trees findings.walk).1 ∧
        (ParseTree.effectAll policy (SyntaxTree.readingAll trees) findings).2.walk =
          (SyntaxTree.checkAll policy trees findings.walk).2
  | _, _, _, .nil, _ => ⟨rfl, rfl⟩
  | _, _, _, .cons item others, findings => by
      obtain ⟨record, walked⟩ := item.walks findings
      simp only [SyntaxTree.readingAll, ParseTree.effectAll, SyntaxTree.checkAll, ParseTree.settle,
        record]
      obtain ⟨records, walkedOthers⟩ := others.walks (ParseTree.effect policy _ findings).2
      rw [walked] at records walkedOthers
      exact ⟨congrArg _ records, walkedOthers⟩
end

end Refinement

/-! ## Programs -/

/-- Where no diagnostic of parsing is about grammar, all of them are about names and types. -/
theorem ofCategory_semantic_of_syntactic {policy : RedeclarationPolicy} {log : DiagnosticLog}
    (ofParsing : ∀ diagnostic ∈ log, diagnostic.OfParsing policy)
    (clean : log.ofCategory .syntactic = []) : log.ofCategory .semantic = log := by
  refine List.filter_eq_self.mpr ?_
  intro diagnostic inside
  have notSyntactic := List.filter_eq_nil_iff.mp clean diagnostic inside
  cases ofParsing diagnostic inside with
  | rejection rejection => exact absurd rfl notSyntactic
  | undeclared => rfl
  | narrowing => rfl
  | nonNumericCondition => rfl
  | redeclared => rfl

/-- **Checking on the way is checking afterwards.** A program that a fresh parser takes without a
diagnostic about grammar has a derivation. For each one, a walk over its trees in source order finds
the same records with the same types, the same diagnostics about names and types in the same order,
and the same bindings at the end. -/
theorem program_checks {policy : RedeclarationPolicy} {tokens : List Token}
    {statements : List Statement} {state : ParseState}
    (run : program policy (.ofTokens tokens) = .ok statements state)
    (clean : state.diagnostics.ofCategory .syntactic = []) :
    (∃ trees, DerivesProgram maxNesting trees (programTokens tokens)) ∧
      ∀ trees, DerivesProgram maxNesting trees (programTokens tokens) →
        statements = (SyntaxTree.checkAll policy trees .start).1 ∧
        state.diagnostics.ofCategory .semantic =
          (SyntaxTree.checkAll policy trees .start).2.diagnostics ∧
        state.table.environment = (SyntaxTree.checkAll policy trees .start).2.environment := by
  refine ⟨exists_derivation_of_clean_run run clean, ?_⟩
  intro trees derives
  obtain ⟨final, -, same⟩ := derives.run (.ofTokens tokens) policy 0 .nothing
  cases run.symm.trans same
  obtain ⟨records, walked⟩ := derives.1.walks policy .nothing
  have semantic := (ParseTree.effectAll_extends policy (SyntaxTree.readingAll trees)
    .nothing).ofParsing rfl
  exact ⟨records, (ofCategory_semantic_of_syntactic semantic clean).trans
    (congrArg Walk.diagnostics walked), congrArg Walk.environment walked⟩

/-- What is found in a program with nested blocks is what the walk over its trees finds. -/
theorem program_checks_branching :
    ∃ statements state trees, program {} (.ofTokens branchingTokens) = .ok statements state ∧
      state.diagnostics.ofCategory .syntactic = [] ∧
      DerivesProgram maxNesting trees (programTokens branchingTokens) ∧
      statements = (SyntaxTree.checkAll {} trees .start).1 ∧
      (SyntaxTree.checkAll {} trees .start).2.diagnostics.map Diagnostic.code =
        [some "S001", some "S010"] ∧
      state.table.environment = (SyntaxTree.checkAll {} trees .start).2.environment := by
  obtain ⟨statements, state, run, -, codes, clean⟩ := exists_run_branchingTokens
  obtain ⟨⟨trees, derives⟩, walks⟩ := program_checks run clean
  obtain ⟨records, found, bindings⟩ := walks trees derives
  rw [found] at codes
  exact ⟨statements, state, trees, run, clean, derives, records, codes, bindings⟩

end NumericLanguage
