import NumericLanguage.Proofs.Reading.Effect

/-!
# Effects side by side

The effect of a reading may be compared under two policies, or from findings that differ in what was
recorded before. What a reading does to findings is done by a handful of operations: it changes the
table of scopes, notes an event, records a rejection or a broken rule, and deals with a
redeclaration as its policy says. A relation between findings with the same table that all of these
keep is kept by every reading, and the records are the same on both sides (`Simulation.effect`,
`Simulation.effectAll`).
-/

set_option autoImplicit false

namespace NumericLanguage

namespace Findings

/-- A relation between findings with the same table that is kept by whatever is done on both sides;
redeclarations are dealt with under a policy of its own on either side. -/
structure Simulation (policy other : RedeclarationPolicy) (Related : Findings → Findings → Prop) :
    Prop where
  table {first second : Findings} : Related first second → second.table = first.table
  retable {first second : Findings} (table : ScopeTable) : Related first second →
    Related { first with table := table } { second with table := table }
  note {first second : Findings} (event : Event) : Related first second →
    Related (first.note event) (second.note event)
  reject {first second : Findings} (rejection : Rejection) : Related first second →
    Related (first.record rejection.diagnostic) (second.record rejection.diagnostic)
  report {first second : Findings} {fault : SemanticFault} (token : Token) :
    (∀ name line, fault ≠ .redeclared name line) → Related first second →
    Related (first.report fault token) (second.report fault token)
  redeclare {first second : Findings} (redeclaration : Redeclaration) : Related first second →
    Related (first.redeclare policy redeclaration) (second.redeclare other redeclaration)

/-- Two outcomes have the same result, and their findings are related. -/
structure SameOutcome {α : Type} (Related : Findings → Findings → Prop)
    (first second : α × Findings) : Prop where
  result : second.1 = first.1
  findings : Related first.2 second.2

namespace Simulation

variable {policy other : RedeclarationPolicy} {Related : Findings → Findings → Prop}
  {first second : Findings}

/-! ## Operations -/

theorem enter (simulation : Simulation policy other Related) (related : Related first second) :
    Related first.enter second.enter := by
  have entered := simulation.note (.scopeEntered first.table.enter.current.name)
    (simulation.retable first.table.enter related)
  unfold Findings.enter
  rw [simulation.table related]
  exact entered

theorem leave (simulation : Simulation policy other Related) (related : Related first second) :
    Related first.leave second.leave := by
  unfold Findings.leave
  rw [simulation.table related]
  split
  · exact simulation.note _ (simulation.retable _ related)
  · exact related

theorem checkName (simulation : Simulation policy other Related)
    (related : Related first second) (name : Token) :
    Related (first.checkName name) (second.checkName name) := by
  unfold Findings.checkName
  rw [simulation.table related]
  split
  · exact simulation.report name (fun _ _ => nofun) related
  · exact related

theorem checkLeadingName (simulation : Simulation policy other Related)
    (related : Related first second) (expression : List Token) :
    Related (first.checkLeadingName expression) (second.checkLeadingName expression) := by
  unfold Findings.checkLeadingName
  split
  · split
    · exact simulation.checkName related _
    · exact related
  · exact related

theorem checkCondition (simulation : Simulation policy other Related)
    (related : Related first second) (keyword : Token) (condition : List Token)
    (type : ValueType) :
    Related (first.checkCondition keyword condition type)
      (second.checkCondition keyword condition type) := by
  unfold Findings.checkCondition
  split
  · exact related
  · exact simulation.report _ (fun _ _ => nofun) related

theorem checkAssignment (simulation : Simulation policy other Related)
    (related : Related first second) (target : Token) (type : ValueType) :
    Related (first.checkAssignment target type) (second.checkAssignment target type) := by
  unfold Findings.checkAssignment
  rw [simulation.table related]
  split
  · exact simulation.report target (fun _ _ => nofun) related
  · split
    · exact simulation.report target (fun _ _ => nofun) related
    · exact related

theorem storeInitialValue (simulation : Simulation policy other Related)
    (related : Related first second) (name : Token) (expression : List Token) :
    Related (first.storeInitialValue name expression)
      (second.storeInitialValue name expression) := by
  unfold Findings.storeInitialValue
  rw [simulation.table related]
  split
  · exact simulation.retable _ related
  · exact related

theorem declare (simulation : Simulation policy other Related) (related : Related first second)
    (type : ValueType) (line : Int) (name : Token) :
    SameOutcome Related (first.declare policy type line name)
      (second.declare other type line name) := by
  unfold Findings.declare
  rw [simulation.table related]
  split
  · exact ⟨rfl, simulation.note _ (simulation.retable _ related)⟩
  · exact ⟨rfl, simulation.redeclare _ related⟩

/-! ## Readings -/

open ParseTree

theorem declarationEffect (simulation : Simulation policy other Related)
    (related : Related first second) (typeToken name : Token) (type : ValueType)
    (initial : Option (List Token)) :
    SameOutcome Related (declarationEffect policy typeToken name type initial first)
      (declarationEffect other typeToken name type initial second) := by
  obtain ⟨free, declared⟩ := simulation.declare related type typeToken.location.line name
  simp only [ParseTree.declarationEffect, free, simulation.table declared]
  refine ⟨rfl, ?_⟩
  split
  · exact simulation.storeInitialValue declared name _
  · exact declared

theorem expressionEffect (simulation : Simulation policy other Related)
    (related : Related first second) (tokens : List Token) (semicolon : Token) :
    SameOutcome Related (expressionEffect tokens semicolon first)
      (expressionEffect tokens semicolon second) := by
  unfold ParseTree.expressionEffect
  rw [simulation.table related]
  split
  · exact ⟨rfl, simulation.checkAssignment related _ _⟩
  · exact ⟨rfl, related⟩

theorem settle (simulation : Simulation policy other Related)
    {outcome again : Except Rejection Statement × Findings}
    (same : SameOutcome Related outcome again) : Related (settle outcome) (settle again) := by
  unfold ParseTree.settle
  rw [same.result]
  split
  · exact same.findings
  · exact simulation.reject _ same.findings

theorem close (simulation : Simulation policy other Related) (related : Related first second)
    (opening : Token) (missing : Option Token) :
    Related (close opening missing first) (close opening missing second) := by
  cases missing with
  | none => exact related
  | some found => exact simulation.reject _ related

mutual
/-- **A reading has the same record on both sides**, and keeps the findings related. -/
theorem effect (simulation : Simulation policy other Related) :
    ∀ (reading : ParseTree) {first second : Findings}, Related first second →
      SameOutcome Related (reading.effect policy first) (reading.effect other second)
  | .declaration typeToken name type initial missing, _, _, related => by
      have declared := simulation.declarationEffect related typeToken name type initial
      simp only [ParseTree.effect, declared.result]
      exact ⟨rfl, declared.findings⟩
  | .read keyword name, _, _, related => by
      simp only [ParseTree.effect, simulation.table related]
      exact ⟨rfl, simulation.checkName related name⟩
  | .write keyword tokens, _, _, related => by
      have checked := simulation.checkLeadingName related tokens
      simp only [ParseTree.effect, simulation.table checked]
      exact ⟨rfl, checked⟩
  | .ifThen keyword condition consequence, first, _, related => by
      have inside := effect simulation consequence (simulation.checkCondition related keyword
        condition (first.table.infer condition))
      simp only [ParseTree.effect, simulation.table related, inside.result]
      exact ⟨rfl, inside.findings⟩
  | .ifThenElse keyword condition consequence alternative, first, _, related => by
      have inside := effect simulation consequence (simulation.checkCondition related keyword
        condition (first.table.infer condition))
      have behind := effect simulation alternative inside.findings
      simp only [ParseTree.effect, simulation.table related, inside.result, behind.result]
      exact ⟨rfl, behind.findings⟩
  | .loop keyword condition body, _, _, related => by
      have inside := effect simulation body related
      simp only [ParseTree.effect, inside.result, simulation.table inside.findings]
      exact ⟨rfl, inside.findings⟩
  | .block opening items missing, _, _, related => by
      have inside := effectAll simulation items (simulation.enter related)
      simp only [ParseTree.effect, inside.result]
      exact ⟨rfl, simulation.leave (simulation.close inside.findings opening missing)⟩
  | .expression tokens semicolon, _, _, related => by
      have checked := simulation.expressionEffect related tokens semicolon
      simp only [ParseTree.effect, checked.result]
      exact ⟨rfl, checked.findings⟩
  | .rejected _, _, _, related => ⟨rfl, related⟩

theorem effectAll (simulation : Simulation policy other Related) :
    ∀ (readings : List ParseTree) {first second : Findings}, Related first second →
      SameOutcome Related (effectAll policy readings first) (effectAll other readings second)
  | [], _, _, related => ⟨rfl, related⟩
  | reading :: others, _, _, related => by
      have inside := effect simulation reading related
      have behind := effectAll simulation others (simulation.settle inside)
      simp only [ParseTree.effectAll, inside.result, behind.result]
      exact ⟨rfl, behind.findings⟩
end

end Simulation

end Findings

end NumericLanguage
