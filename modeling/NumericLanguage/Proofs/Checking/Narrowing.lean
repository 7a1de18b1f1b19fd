import NumericLanguage.Proofs.Analysis.Run
import NumericLanguage.Proofs.Checking.Refinement
import NumericLanguage.Proofs.Grammar.Extent
import NumericLanguage.Proofs.Scanning.LongestMatch

/-!
# Doubles in long variables

A value reaches a variable in an assignment or as the initial value of its declaration. Assignments
are checked: a walk that ends without an error has come to no assignment of a double to a variable
that is visible there as long. Initial values are not checked, and one that is a single real number
is stored as it is (`narrowing_initial_unreported`). This is the only way in which a long variable
comes to hold something else than a whole number (`narrowing_reported_in_assignments`).
-/

set_option autoImplicit false

namespace NumericLanguage

/-! ## Visits -/

/-- A node of a tree, and where the walk through the tree stands in front of it. -/
structure Visit where
  node : SyntaxTree
  walk : Walk

namespace SyntaxTree

variable (policy : RedeclarationPolicy)

mutual
/-- The nodes that a walk through a tree comes to, in order. -/
def visits : SyntaxTree → Walk → List Visit
  | declaration typeToken name type initial, walk =>
      [⟨declaration typeToken name type initial, walk⟩]
  | read keyword name, walk => [⟨read keyword name, walk⟩]
  | write keyword tokens, walk => [⟨write keyword tokens, walk⟩]
  | ifThen keyword condition consequence, walk =>
      ⟨ifThen keyword condition consequence, walk⟩ ::
        consequence.visits (walk.checkCondition keyword condition)
  | ifThenElse keyword condition consequence alternative, walk =>
      ⟨ifThenElse keyword condition consequence alternative, walk⟩ ::
        (consequence.visits (walk.checkCondition keyword condition) ++
          alternative.visits
            (consequence.check policy (walk.checkCondition keyword condition)).2)
  | loop keyword condition body, walk =>
      ⟨loop keyword condition body, walk⟩ :: body.visits walk
  | block opening items, walk => ⟨block opening items, walk⟩ :: visitsAll items walk.push
  | expression tokens semicolon, walk => [⟨expression tokens semicolon, walk⟩]

/-- The nodes that a walk through some trees comes to, in order. -/
def visitsAll : List SyntaxTree → Walk → List Visit
  | [], _ => []
  | tree :: others, walk => tree.visits walk ++ visitsAll others (tree.check policy walk).2
end

end SyntaxTree

namespace Visit

variable (visit : Visit)

/-- The binding that a visited declaration makes, if its name is free. -/
def binding? : Option Binding :=
  match visit.node with
  | .declaration typeToken name type initial =>
      match visit.walk.environment.lookupInnermost name.lexeme with
      | none => some ⟨name.lexeme, type, typeToken.location.line, name.location,
          (Parse.initialValue (initial.getD [])).join⟩
      | some _ => none
  | _ => none

/-- The initial value of a visited declaration. -/
def initial : List Token :=
  match visit.node with
  | .declaration _ _ _ initial => initial.getD []
  | _ => []

/-- The variable that a visited assignment gives a value to, as it is visible there, and the type of
the value. -/
def assigned? : Option (Binding × ValueType) :=
  match visit.node with
  | .expression tokens _ =>
      (Parse.assignment? tokens).bind fun parts =>
        (visit.walk.environment.lookup parts.1.lexeme).map fun binding =>
          (binding, visit.walk.environment.typeOf parts.2)
  | _ => none

/-- The variable that a visited declaration binds with an initial value, and the type of the
value. -/
def initialized? (policy : RedeclarationPolicy) : Option (Binding × ValueType) :=
  match visit.node with
  | .declaration typeToken name type (some initial) =>
      visit.binding?.map fun binding => (binding,
        (visit.walk.declare policy typeToken name type initial).environment.typeOf initial)
  | _ => none

end Visit

/-! ## Walks only add diagnostics -/

namespace Walk

variable (walk : Walk) (policy : RedeclarationPolicy)

theorem prefix_report (fault : SemanticFault) (token : Token) :
    walk.diagnostics <+: (walk.report fault token).diagnostics :=
  List.prefix_append _ _

theorem prefix_use (name : Token) : walk.diagnostics <+: (walk.use name).diagnostics := by
  unfold use
  split
  · exact List.prefix_rfl
  · exact walk.prefix_report _ _

theorem prefix_useLeading (expression : List Token) :
    walk.diagnostics <+: (walk.useLeading expression).diagnostics := by
  unfold useLeading
  split
  · split
    · exact walk.prefix_use _
    · exact List.prefix_rfl
  · exact List.prefix_rfl

theorem prefix_checkCondition (keyword : Token) (condition : List Token) :
    walk.diagnostics <+: (walk.checkCondition keyword condition).diagnostics := by
  unfold checkCondition
  split
  · exact walk.prefix_report _ _
  · exact List.prefix_rfl

theorem prefix_assign (target : Token) (value : List Token) :
    walk.diagnostics <+: (walk.assign target value).diagnostics := by
  unfold assign
  split
  · exact walk.prefix_report _ _
  · split
    · exact walk.prefix_report _ _
    · exact List.prefix_rfl

theorem prefix_declare (typeToken name : Token) (type : ValueType) (initial : List Token) :
    walk.diagnostics <+: (walk.declare policy typeToken name type initial).diagnostics := by
  unfold declare
  split
  · exact List.prefix_rfl
  · split
    · exact List.prefix_append _ _
    · exact List.prefix_rfl

end Walk

namespace SyntaxTree

variable (policy : RedeclarationPolicy)

mutual
/-- A walk through a tree only adds diagnostics. -/
theorem check_grows : ∀ (tree : SyntaxTree) (walk : Walk),
    walk.diagnostics <+: (tree.check policy walk).2.diagnostics
  | declaration .., walk => walk.prefix_declare policy _ _ _ _
  | read _ name, walk => walk.prefix_use name
  | write _ tokens, walk => walk.prefix_useLeading tokens
  | ifThen keyword condition consequence, walk =>
      (walk.prefix_checkCondition keyword condition).trans (consequence.check_grows _)
  | ifThenElse keyword condition consequence alternative, walk =>
      (walk.prefix_checkCondition keyword condition).trans
        ((consequence.check_grows _).trans (alternative.check_grows _))
  | loop _ _ body, walk => body.check_grows walk
  | block _ items, walk => checkAll_grows items walk.push
  | expression tokens _, walk => by
      unfold check
      cases Parse.assignment? tokens with
      | none => exact List.prefix_rfl
      | some parts => exact walk.prefix_assign parts.1 parts.2

theorem checkAll_grows : ∀ (trees : List SyntaxTree) (walk : Walk),
    walk.diagnostics <+: (checkAll policy trees walk).2.diagnostics
  | [], _ => List.prefix_rfl
  | tree :: others, walk => (tree.check_grows walk).trans (checkAll_grows others _)
end

mutual
/-- What is found at a visited node is found by the whole walk. -/
theorem prefix_of_visits : ∀ (tree : SyntaxTree) (walk : Walk), ∀ visit ∈ tree.visits policy walk,
    (visit.node.check policy visit.walk).2.diagnostics <+: (tree.check policy walk).2.diagnostics
  | declaration .., _ | read .., _ | write .., _ | expression .., _ =>
      List.forall_mem_singleton.mpr List.prefix_rfl
  | ifThen _ _ consequence, _ =>
      List.forall_mem_cons.mpr ⟨List.prefix_rfl, consequence.prefix_of_visits _⟩
  | ifThenElse _ _ consequence alternative, _ =>
      List.forall_mem_cons.mpr ⟨List.prefix_rfl, List.forall_mem_append.mpr
        ⟨fun visit inside => (consequence.prefix_of_visits _ visit inside).trans
          (alternative.check_grows policy _), alternative.prefix_of_visits _⟩⟩
  | loop _ _ body, walk => List.forall_mem_cons.mpr ⟨List.prefix_rfl, body.prefix_of_visits walk⟩
  | block _ items, walk =>
      List.forall_mem_cons.mpr ⟨List.prefix_rfl, prefix_of_visitsAll items walk.push⟩

theorem prefix_of_visitsAll : ∀ (trees : List SyntaxTree) (walk : Walk),
    ∀ visit ∈ visitsAll policy trees walk, (visit.node.check policy visit.walk).2.diagnostics <+:
      (checkAll policy trees walk).2.diagnostics
  | [], _ => nofun
  | tree :: others, walk => List.forall_mem_append.mpr
      ⟨fun visit inside => (tree.prefix_of_visits walk visit inside).trans
        (checkAll_grows policy others _), prefix_of_visitsAll others _⟩
end

end SyntaxTree

/-- Where an assignment takes a double to a long variable, an error is found. -/
theorem Visit.exists_error_of_narrows {visit : Visit} {binding : Binding} {type : ValueType}
    (policy : RedeclarationPolicy) (assigned : visit.assigned? = some (binding, type))
    (narrows : binding.type.narrows type = true) :
    ∃ diagnostic ∈ (visit.node.check policy visit.walk).2.diagnostics,
      diagnostic.isError = true := by
  obtain ⟨node, walk⟩ := visit
  unfold assigned? at assigned
  split at assigned
  · rename_i tokens semicolon same
    cases same
    obtain ⟨⟨target, value⟩, shape, visible⟩ := Option.bind_eq_some_iff.mp assigned
    obtain ⟨found, bound, same⟩ := Option.map_eq_some_iff.mp visible
    cases same
    have isNarrowing : binding.type = .long ∧ walk.environment.typeOf value = .double := by
      simpa [ValueType.narrows] using narrows
    refine ⟨SemanticFault.diagnostic (.narrowing target.lexeme .long .double) target.location, ?_,
      rfl⟩
    simp only [SyntaxTree.check, shape, Walk.assign, bound, if_pos isNarrowing, Walk.report]
    exact List.mem_append_right _ (List.mem_singleton_self _)
  · cases assigned

/-! ## Bindings of a walk -/

/-- All bindings in force have a property. -/
def Walk.Holds (property : Binding → Prop) (walk : Walk) : Prop :=
  ∀ frame ∈ walk.environment, ∀ binding ∈ frame, property binding

namespace Walk

variable (walk : Walk)

@[simp] theorem environment_use (name : Token) :
    (walk.use name).environment = walk.environment := by
  unfold use
  split <;> rfl

@[simp] theorem environment_useLeading (expression : List Token) :
    (walk.useLeading expression).environment = walk.environment := by
  unfold useLeading
  split
  · split
    · exact walk.environment_use _
    · rfl
  · rfl

@[simp] theorem environment_checkCondition (keyword : Token) (condition : List Token) :
    (walk.checkCondition keyword condition).environment = walk.environment := by
  unfold checkCondition
  split <;> rfl

@[simp] theorem environment_assign (target : Token) (value : List Token) :
    (walk.assign target value).environment = walk.environment := by
  unfold assign
  split
  · rfl
  · split <;> rfl

namespace Holds

variable {walk} {property : Binding → Prop}

theorem start : Walk.start.Holds property := by
  intro frame inside binding member
  rw [List.mem_singleton.mp inside] at member
  cases member

theorem congr {other : Walk} (holds : walk.Holds property)
    (same : other.environment = walk.environment) : other.Holds property := by
  unfold Holds
  rw [same]
  exact holds

theorem push (holds : walk.Holds property) : walk.push.Holds property := by
  intro frame inside binding member
  rcases List.mem_cons.mp inside with rfl | outer
  · cases member
  · exact holds frame outer binding member

theorem pop (holds : walk.Holds property) : walk.pop.Holds property :=
  fun frame inside => holds frame (List.mem_of_mem_tail inside)

/-- A declaration adds at most its own binding. -/
theorem declare (holds : walk.Holds property) {policy : RedeclarationPolicy}
    {typeToken name : Token} {type : ValueType} {initial : Option (List Token)}
    (made : ∀ binding ∈ (⟨.declaration typeToken name type initial, walk⟩ : Visit).binding?,
      property binding) :
    (walk.declare policy typeToken name type (initial.getD [])).Holds property := by
  obtain ⟨environment, diagnostics⟩ := walk
  cases free : environment.lookupInnermost name.lexeme with
  | some existing =>
      refine holds.congr ?_
      simp only [Walk.declare, free]
      split <;> rfl
  | none =>
      simp only [Visit.binding?, free, Option.mem_def, Option.some.injEq, forall_eq'] at made
      simp only [Walk.declare, free]
      cases environment with
      | nil => exact holds
      | cons innermost outer =>
          intro frame inside binding member
          rcases List.mem_cons.mp inside with rfl | behind
          · rcases List.mem_append.mp member with old | new
            · exact holds innermost List.mem_cons_self binding old
            · rw [List.mem_singleton.mp new]
              exact made
          · exact holds frame (List.mem_cons_of_mem _ behind) binding member

end Holds

end Walk

namespace SyntaxTree

variable (policy : RedeclarationPolicy) (property : Binding → Prop)

mutual
/-- **A property of all bindings that are made is one of all bindings in force**, at the end of a
walk and wherever it comes to. -/
theorem holds_of_visits : ∀ (tree : SyntaxTree) (walk : Walk),
    (∀ visit ∈ tree.visits policy walk, ∀ binding ∈ visit.binding?, property binding) →
    walk.Holds property → (tree.check policy walk).2.Holds property ∧
      ∀ visit ∈ tree.visits policy walk, visit.walk.Holds property
  | declaration .., _, made, holds =>
      ⟨holds.declare (List.forall_mem_singleton.mp made), List.forall_mem_singleton.mpr holds⟩
  | read _ name, walk, _, holds =>
      ⟨holds.congr (walk.environment_use name), List.forall_mem_singleton.mpr holds⟩
  | write _ tokens, walk, _, holds =>
      ⟨holds.congr (walk.environment_useLeading tokens), List.forall_mem_singleton.mpr holds⟩
  | expression tokens semicolon, walk, _, holds => by
      refine ⟨?_, List.forall_mem_singleton.mpr holds⟩
      unfold check
      cases Parse.assignment? tokens with
      | none => exact holds
      | some parts => exact holds.congr (walk.environment_assign parts.1 parts.2)
  | ifThen keyword condition consequence, walk, made, holds => by
      obtain ⟨behind, within⟩ := consequence.holds_of_visits _ (List.forall_mem_cons.mp made).2
        (holds.congr (walk.environment_checkCondition keyword condition))
      exact ⟨behind, List.forall_mem_cons.mpr ⟨holds, within⟩⟩
  | ifThenElse keyword condition consequence alternative, walk, made, holds => by
      obtain ⟨madeFirst, madeSecond⟩ :=
        List.forall_mem_append.mp (List.forall_mem_cons.mp made).2
      obtain ⟨between, first⟩ := consequence.holds_of_visits _ madeFirst
        (holds.congr (walk.environment_checkCondition keyword condition))
      obtain ⟨behind, second⟩ := alternative.holds_of_visits _ madeSecond between
      exact ⟨behind, List.forall_mem_cons.mpr ⟨holds, List.forall_mem_append.mpr ⟨first, second⟩⟩⟩
  | loop _ _ body, walk, made, holds => by
      obtain ⟨behind, within⟩ := body.holds_of_visits walk (List.forall_mem_cons.mp made).2 holds
      exact ⟨behind, List.forall_mem_cons.mpr ⟨holds, within⟩⟩
  | block _ items, walk, made, holds => by
      obtain ⟨behind, within⟩ :=
        holds_of_visitsAll items walk.push (List.forall_mem_cons.mp made).2 holds.push
      exact ⟨behind.pop, List.forall_mem_cons.mpr ⟨holds, within⟩⟩

theorem holds_of_visitsAll : ∀ (trees : List SyntaxTree) (walk : Walk),
    (∀ visit ∈ visitsAll policy trees walk, ∀ binding ∈ visit.binding?, property binding) →
    walk.Holds property → (checkAll policy trees walk).2.Holds property ∧
      ∀ visit ∈ visitsAll policy trees walk, visit.walk.Holds property
  | [], _, _, holds => ⟨holds, nofun⟩
  | tree :: others, walk, made, holds => by
      obtain ⟨madeFirst, madeOthers⟩ := List.forall_mem_append.mp made
      obtain ⟨between, first⟩ := tree.holds_of_visits walk madeFirst holds
      obtain ⟨behind, second⟩ := holds_of_visitsAll others _ madeOthers between
      exact ⟨behind, List.forall_mem_append.mpr ⟨first, second⟩⟩
end

end SyntaxTree

/-! ## Whole numbers -/

/-- The number that an integer literal stands for is its value. -/
def Token.HoldsInteger (token : Token) : Prop :=
  token.kind = .integer → ∃ number, token.value = some (.integer number)

theorem Scans.exists_integer {input : List Char} {element : Element} {value : Option Literal}
    (scans : Scans input element) (form : element.form = .token .integer value) :
    ∃ number, value = some (.integer number) := by
  cases scans with
  | lexeme _ lexeme _ =>
      cases lexeme <;> cases form
      exact ⟨_, rfl⟩
  | _ => cases form

/-- The integer literals of a text hold integers. -/
theorem holdsInteger_of_mem_tokenize {file source : String} {token : Token}
    (inside : token ∈ (tokenize file source).tokens) : token.HoldsInteger := by
  intro isInteger
  rcases exists_scan_of_mem_tokenize inside with isEnd | ⟨head, rest, -, form⟩
  · rw [isEnd] at isInteger
    cases isInteger
  · rw [isInteger] at form
    exact (scans_scan head rest).exists_integer form

/-- A binding as long has no value or an integer. -/
def Binding.IsWhole (binding : Binding) : Prop :=
  binding.type = .long → ∀ value ∈ binding.value, ∃ number, value = .integer number

/-- A single number that is stored as an initial value is an integer, or makes its expression a
double. -/
theorem Parse.integer_or_double_of_initialValue {initial : List Token} {value : Literal}
    (stored : (Parse.initialValue initial).join = some value)
    (integers : ∀ token ∈ initial, token.HoldsInteger) :
    (∃ number, value = .integer number) ∨
      ∀ environment : Environment, environment.typeOf initial = .double := by
  unfold Parse.initialValue at stored
  split at stored
  · rename_i token
    split at stored
    · rename_i isNumber
      unfold TokenKind.isNumericLiteral at isNumber
      split at isNumber
      · rename_i isInteger
        obtain ⟨number, same⟩ := integers token (List.mem_singleton_self token) isInteger
        cases same.symm.trans stored
        exact .inl ⟨number, rfl⟩
      · rename_i isReal
        exact .inr fun environment => by
          simp [Environment.typeOf, Environment.makesDouble, isReal]
      · cases isNumber
    · cases stored
  · cases stored

/-- A declaration without an initial value that narrows binds a long variable to no value or to an
integer. -/
theorem Visit.isWhole_of_wide {visit : Visit} {policy : RedeclarationPolicy} {binding : Binding}
    (made : binding ∈ visit.binding?) (integers : ∀ token ∈ visit.initial, token.HoldsInteger)
    (wide : ∀ binding type, visit.initialized? policy = some (binding, type) →
      binding.type.narrows type = false) : binding.IsWhole := by
  obtain ⟨node, walk⟩ := visit
  have bound := made
  unfold binding? at made
  split at made
  · rename_i typeToken name type initial same
    cases same
    split at made
    · cases made
      intro isLong value stored
      cases initial with
      | none => cases stored
      | some initial =>
          rcases Parse.integer_or_double_of_initialValue stored integers with integer | double
          · exact integer
          · have narrows := wide _ _ (congrArg (Option.map _) bound)
            rw [isLong, show Environment.typeOf _ initial = .double from double _] at narrows
            cases narrows
    · cases made
  · cases made

/-- All bindings in force at a visited node are whole, and so is one that is made there. -/
def Visit.HoldsWhole (visit : Visit) : Prop :=
  visit.walk.Holds Binding.IsWhole ∧ ∀ binding ∈ visit.binding?, binding.IsWhole

section Derivations

variable (policy : RedeclarationPolicy)

mutual
/-- The initial values in a derived statement are made of its tokens. -/
theorem DerivesStatement.initial_subset : ∀ {tree : SyntaxTree} {input rest : List Token},
    DerivesStatement tree input rest → ∀ walk : Walk, ∀ visit ∈ tree.visits policy walk,
      visit.initial ⊆ input
  | _, _, _, .read .., _ | _, _, _, .write .., _ | _, _, _, .expression .., _ =>
      List.forall_mem_singleton.mpr (List.nil_subset _)
  | _, _, _, .ifThen _ _ _ _ _ consequence _, walk =>
      List.forall_mem_cons.mpr ⟨List.nil_subset _, fun visit inside token member => by
        simp [consequence.initial_subset _ visit inside member]⟩
  | _, _, _, .ifThenElse _ _ _ _ _ consequence _ alternative, walk => by
      obtain ⟨run, split, -, -⟩ := consequence.exists_run
      refine List.forall_mem_cons.mpr ⟨List.nil_subset _, List.forall_mem_append.mpr ⟨?_, ?_⟩⟩
      · intro visit inside token member
        simp [consequence.initial_subset _ visit inside member]
      · intro visit inside token member
        simp [split, alternative.initial_subset _ visit inside member]
  | _, _, _, .loop _ _ _ _ body, walk =>
      List.forall_mem_cons.mpr ⟨List.nil_subset _, fun visit inside token member => by
        simp [body.initial_subset _ visit inside member]⟩
  | _, _, _, .block block, walk => block.initial_subset walk

theorem DerivesBlock.initial_subset : ∀ {tree : SyntaxTree} {input rest : List Token},
    DerivesBlock tree input rest → ∀ walk : Walk, ∀ visit ∈ tree.visits policy walk,
      visit.initial ⊆ input
  | _, _, _, .braces _ items _, walk =>
      List.forall_mem_cons.mpr ⟨List.nil_subset _, fun visit inside token member => by
        simp [items.initial_subset _ visit inside member]⟩

theorem DerivesItem.initial_subset : ∀ {tree : SyntaxTree} {input rest : List Token},
    DerivesItem tree input rest → ∀ walk : Walk, ∀ visit ∈ tree.visits policy walk,
      visit.initial ⊆ input
  | _, _, _, .declaration .., walk => List.forall_mem_singleton.mpr (List.nil_subset _)
  | _, _, _, .initialized .., walk => List.forall_mem_singleton.mpr fun token member => by
      simp only [Visit.initial, Option.getD_some] at member
      simp [member]
  | _, _, _, .statement _ statement, walk => statement.initial_subset walk

theorem DerivesItems.initial_subset : ∀ {trees : List SyntaxTree} {input rest : List Token},
    DerivesItems trees input rest → ∀ walk : Walk,
      ∀ visit ∈ SyntaxTree.visitsAll policy trees walk, visit.initial ⊆ input
  | _, _, _, .nil, walk => nofun
  | _, _, _, .cons item others, walk => by
      obtain ⟨run, rfl, -, -⟩ := item.exists_run
      refine List.forall_mem_append.mpr ⟨item.initial_subset walk, ?_⟩
      intro visit inside
      exact List.Subset.trans (others.initial_subset _ visit inside) (List.subset_append_right _ _)
end

end Derivations

/-! ## Reports without errors -/

/-- A report is that of a walk over derivation trees. -/
structure Report.OfWalk (policy : RedeclarationPolicy) (report : Report)
    (trees : List SyntaxTree) : Prop where
  derives : DerivesProgram maxNesting trees (programTokens report.tokens)
  statements : report.statements = (SyntaxTree.checkAll policy trees .start).1
  diagnostics : report.diagnostics = (SyntaxTree.checkAll policy trees .start).2.diagnostics
  environment : report.table.environment =
    (SyntaxTree.checkAll policy trees .start).2.environment

theorem DiagnosticLog.isError_eq_false {log : DiagnosticLog} (noErrors : log.hasErrors = false)
    {diagnostic : Diagnostic} (inside : diagnostic ∈ log) : diagnostic.isError = false :=
  Bool.eq_false_iff.mpr (List.any_eq_false.mp noErrors diagnostic inside)

/-- A text without errors is well-formed. -/
theorem wellFormed_of_noErrors {file source : String} {log : DiagnosticLog}
    (grown : (tokenize file source).diagnostics <+: log) (noErrors : log.hasErrors = false) :
    (tokenize file source).diagnostics = [] := by
  refine List.eq_nil_iff_forall_not_mem.mpr fun diagnostic inside => ?_
  have isError := DiagnosticLog.isError_eq_false noErrors (grown.subset inside)
  obtain ⟨fault, location, rfl⟩ := exists_fault_of_mem_tokenize inside
  cases isError

/-- A text without errors has a derivation, of which its readings are those. -/
theorem exists_derivation_of_noErrors {options : AnalysisOptions} {source : String}
    {readings : List ParseTree} {final : TokenStream}
    (reads : ReadsProgram (.ofTokens (tokenize options.file source).tokens) readings final)
    (noErrors : DiagnosticLog.hasErrors (options.outcome source readings).2.diagnostics = false) :
    ∃ trees, readings = SyntaxTree.readingAll trees ∧
      DerivesProgram maxNesting trees (programTokens (tokenize options.file source).tokens) := by
  have none_recorded : ParseTree.recordedAll readings = [] := by
    refine List.eq_nil_iff_forall_not_mem.mpr fun rejection inside => ?_
    have syntactic := ParseTree.effectAll_syntactic options.redeclarations readings
      (options.begun source)
    have recorded : rejection.diagnostic ∈ (options.outcome source readings).2.syntactic := by
      rw [AnalysisOptions.outcome, syntactic]
      exact List.mem_append_right _ (List.mem_map_of_mem inside)
    cases DiagnosticLog.isError_eq_false noErrors (List.mem_filter.mp recorded).1
  obtain ⟨trees, same, derives, fits⟩ := ReadsItems.exists_derivation reads none_recorded
  rw [reads.rest_eq_nil] at derives
  exact ⟨trees, same, derives, fits⟩

/-- **A report without errors is that of a walk** over the derivation of the tokens. -/
theorem exists_ofWalk_of_noErrors {options : AnalysisOptions} {source : String} {report : Report}
    (run : analyze options source = .ok report) (noErrors : report.hasErrors = false) :
    report.tokens = (tokenize options.file source).tokens ∧
      ∃ trees, report.OfWalk options.redeclarations trees := by
  obtain ⟨readings, final, reads⟩ := exists_reads_of_source options.file source
  by_cases parses : options.Parses source
  · cases run.symm.trans (analyze_of_reads reads parses)
    obtain ⟨added, split, -⟩ := options.exists_added source readings
    have wellFormed := wellFormed_of_noErrors ⟨added, split.symm⟩ noErrors
    obtain ⟨trees, rfl, derives⟩ := exists_derivation_of_noErrors reads noErrors
    have begins : (options.begun source).walk = .start := by
      rw [Findings.walk, AnalysisOptions.begun, wellFormed]
      rfl
    obtain ⟨records, walked⟩ :=
      derives.1.walks options.redeclarations (options.begun source)
    rw [begins] at records walked
    exact ⟨rfl, trees, derives, records, congrArg Walk.diagnostics walked,
      congrArg Walk.environment walked⟩
  · -- A text that is left unparsed is malformed, which is an error.
    cases run.symm.trans (analyze_of_stop parses)
    exact absurd (.inr (wellFormed_of_noErrors List.prefix_rfl noErrors)) parses

/-! ## Narrowing -/

/-- **Narrowing in assignments is reported, narrowing initial values are not.** Where an analysis
finds no error, its report is that of a walk over derivation trees of the tokens. No assignment that
the walk comes to, in any block, takes a double to a variable that is visible there as long. If no
declaration binds a long variable with a double as its initial value, then every long variable that
is ever bound, in any block, holds no value or an integer. -/
theorem narrowing_reported_in_assignments {options : AnalysisOptions} {source : String}
    {report : Report} (run : analyze options source = .ok report)
    (noErrors : report.hasErrors = false) :
    ∃ trees, report.OfWalk options.redeclarations trees ∧
      (∀ visit ∈ SyntaxTree.visitsAll options.redeclarations trees .start,
        ∀ binding type, visit.assigned? = some (binding, type) →
          binding.type.narrows type = false) ∧
      ((∀ visit ∈ SyntaxTree.visitsAll options.redeclarations trees .start,
          ∀ binding type, visit.initialized? options.redeclarations = some (binding, type) →
            binding.type.narrows type = false) →
        (SyntaxTree.checkAll options.redeclarations trees .start).2.Holds Binding.IsWhole ∧
          ∀ visit ∈ SyntaxTree.visitsAll options.redeclarations trees .start,
            visit.HoldsWhole) := by
  obtain ⟨tokens, trees, ofWalk⟩ := exists_ofWalk_of_noErrors run noErrors
  refine ⟨trees, ofWalk, ?_, fun wide => ?_⟩
  · intro visit inside binding type assigned
    refine Bool.eq_false_iff.mpr fun narrows => ?_
    obtain ⟨diagnostic, found, isError⟩ :=
      visit.exists_error_of_narrows options.redeclarations assigned narrows
    have recorded := (SyntaxTree.prefix_of_visitsAll _ trees .start visit inside).subset found
    rw [← ofWalk.diagnostics] at recorded
    exact Bool.false_ne_true ((DiagnosticLog.isError_eq_false noErrors recorded).symm.trans isError)
  · have made : ∀ visit ∈ SyntaxTree.visitsAll options.redeclarations trees .start,
        ∀ binding ∈ visit.binding?, binding.IsWhole := by
      intro visit inside binding made
      refine visit.isWhole_of_wide made ?_ (wide visit inside)
      intro token member
      have used := ofWalk.derives.1.initial_subset _ .start visit inside member
      rw [tokens] at used
      exact holdsInteger_of_mem_tokenize ((List.takeWhile_prefix _).subset used)
    obtain ⟨last, within⟩ := SyntaxTree.holds_of_visitsAll _ _ trees .start made .start
    exact ⟨last, fun visit inside => ⟨within visit inside, made visit inside⟩⟩

/-- What an analysis finds out about errors and about the variables at the end. -/
def Report.stored (report : Report) : Bool × List (ValueType × Option Literal) :=
  (report.hasErrors, report.table.declarations.map fun declaration =>
    (declaration.type, declaration.value))

theorem exists_report_of_stored {source : String}
    {stored : Bool × List (ValueType × Option Literal)}
    (found : (analyze {} source).toOption.map Report.stored = some stored) :
    ∃ report, analyze {} source = .ok report ∧ report.stored = stored := by
  cases run : analyze {} source with
  | error failure =>
      rw [run] at found
      cases found
  | ok report =>
      rw [run] at found
      exact ⟨report, rfl, Option.some.inj found⟩

/-- In `long x = 1; x = 2;` no double reaches the long variable. -/
theorem narrowing_reported_in_assignments_of_integers :
    ∃ report, analyze {} "long x = 1; x = 2;" = .ok report ∧ report.hasErrors = false ∧
      ∃ trees, report.OfWalk {} trees ∧
        (∀ visit ∈ SyntaxTree.visitsAll {} trees .start,
          ∀ binding type, visit.assigned? = some (binding, type) →
            binding.type.narrows type = false) ∧
        ((∀ visit ∈ SyntaxTree.visitsAll {} trees .start,
            ∀ binding type, visit.initialized? {} = some (binding, type) →
              binding.type.narrows type = false) →
          (SyntaxTree.checkAll {} trees .start).2.Holds Binding.IsWhole ∧
            ∀ visit ∈ SyntaxTree.visitsAll {} trees .start, visit.HoldsWhole) := by
  have found : (analyze {} "long x = 1; x = 2;").toOption.map Report.stored =
      some (false, [(.long, some (.integer 1))]) := by decide +kernel
  obtain ⟨report, run, same⟩ := exists_report_of_stored found
  have noErrors : report.hasErrors = false := congrArg Prod.fst same
  exact ⟨report, run, noErrors, narrowing_reported_in_assignments run noErrors⟩

/-- In `long x = 2.5;` a double reaches a long variable, which holds it at the end, and no error is
found. -/
theorem narrowing_initial_unreported :
    ∃ report, analyze {} "long x = 2.5;" = .ok report ∧ report.hasErrors = false ∧
      ∃ declaration ∈ report.table.declarations, declaration.type = .long ∧
        declaration.value = some (.real (realValue ['2'] ['5'])) := by
  have found : (analyze {} "long x = 2.5;").toOption.map Report.stored =
      some (false, [(.long, some (.real (realValue ['2'] ['5'])))]) := by decide +kernel
  obtain ⟨report, run, same⟩ := exists_report_of_stored found
  obtain ⟨noErrors, stored⟩ := Prod.mk.inj same
  obtain ⟨declaration, rest, declarations, both, -⟩ := List.map_eq_cons_iff.mp stored
  obtain ⟨type, value⟩ := Prod.mk.inj both
  refine ⟨report, run, noErrors, declaration, ?_, type, value⟩
  rw [declarations]
  exact List.mem_cons_self

end NumericLanguage
