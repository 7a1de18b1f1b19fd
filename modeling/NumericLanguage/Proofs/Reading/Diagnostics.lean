import NumericLanguage.Proofs.Reading.Effect

/-!
# The diagnostics of readings

Parsing records rejections and broken rules, and nothing else; a redeclaration is recorded as the
policy says. The log only grows: behind a reading it is what it was, followed by such diagnostics
(`ParseTree.effect_extends`).
-/

set_option autoImplicit false

namespace NumericLanguage

/-- A diagnostic that parsing records under a policy. -/
inductive Diagnostic.OfParsing (policy : RedeclarationPolicy) : Diagnostic → Prop
  | rejection (rejection : Rejection) : OfParsing policy rejection.diagnostic
  | undeclared (name : String) (location : Location) :
      OfParsing policy (SemanticFault.diagnostic (.undeclared name) location)
  | narrowing (name : String) (declared inferred : ValueType) (location : Location) :
      OfParsing policy (SemanticFault.diagnostic (.narrowing name declared inferred) location)
  | nonNumericCondition (type : ValueType) (location : Location) :
      OfParsing policy (SemanticFault.diagnostic (.nonNumericCondition type) location)
  | redeclared (redeclaration : Redeclaration) : policy.reported = true →
      OfParsing policy (redeclaration.diagnosticAs policy.severity)

namespace Findings

/-- Findings whose log continues that of others with diagnostics of parsing. -/
def Extends (policy : RedeclarationPolicy) (before after : Findings) : Prop :=
  ∃ added, after.diagnostics = before.diagnostics ++ added ∧
    ∀ diagnostic ∈ added, diagnostic.OfParsing policy

namespace Extends

variable {policy : RedeclarationPolicy} {before middle after : Findings}

theorem of_eq (same : after.diagnostics = before.diagnostics) : Extends policy before after :=
  ⟨[], by rw [same, List.append_nil], fun _ inside => nomatch inside⟩

theorem trans (first : Extends policy before middle) (second : Extends policy middle after) :
    Extends policy before after := by
  obtain ⟨added, split, ofParsing⟩ := first
  obtain ⟨more, again, ofParsingToo⟩ := second
  refine ⟨added ++ more, by rw [again, split, List.append_assoc], ?_⟩
  intro diagnostic inside
  rcases List.mem_append.mp inside with early | late
  · exact ofParsing diagnostic early
  · exact ofParsingToo diagnostic late

theorem record {diagnostic : Diagnostic} (ofParsing : diagnostic.OfParsing policy) :
    Extends policy before (before.record diagnostic) := by
  refine ⟨[diagnostic], rfl, ?_⟩
  intro other inside
  rw [List.mem_singleton.mp inside]
  exact ofParsing

/-- With nothing recorded before, all diagnostics are those of parsing. -/
theorem ofParsing (grown : Extends policy before after) (empty : before.diagnostics = []) :
    ∀ diagnostic ∈ after.diagnostics, diagnostic.OfParsing policy := by
  obtain ⟨added, split, ofParsing⟩ := grown
  rw [split, empty]
  exact ofParsing

end Extends

variable (policy : RedeclarationPolicy) (findings : Findings)

/-- Checks record at most a broken rule. -/
theorem Checked.extends {findings after : Findings} (checked : findings.Checked after) :
    Extends policy findings after := by
  cases checked with
  | passed => exact .of_eq rfl
  | reported fault token other =>
      apply Extends.record
      cases fault with
      | undeclared name => exact .undeclared name token.location
      | narrowing name declared inferred => exact .narrowing name declared inferred token.location
      | nonNumericCondition inferred => exact .nonNumericCondition inferred token.location
      | redeclared name line => exact absurd rfl (other name line)

theorem extends_redeclare (redeclaration : Redeclaration) :
    Extends policy findings (findings.redeclare policy redeclaration) := by
  cases reported : policy.reported with
  | true =>
      simp only [redeclare, reported, if_true]
      exact (Extends.of_eq rfl).trans (.record (.redeclared redeclaration reported))
  | false =>
      simp only [redeclare, reported]
      exact .of_eq rfl

theorem extends_declare (type : ValueType) (line : Int) (name : Token) :
    Extends policy findings (findings.declare policy type line name).2 := by
  unfold declare
  split
  · exact .of_eq rfl
  · exact findings.extends_redeclare policy _

theorem diagnostics_storeInitialValue (name : Token) (expression : List Token) :
    (findings.storeInitialValue name expression).diagnostics = findings.diagnostics := by
  unfold storeInitialValue
  split <;> rfl

theorem diagnostics_leave : findings.leave.diagnostics = findings.diagnostics := by
  unfold leave
  split <;> rfl

end Findings

namespace ParseTree

open Findings

variable (policy : RedeclarationPolicy)

theorem extends_declarationEffect (typeToken name : Token) (type : ValueType)
    (initial : Option (List Token)) (findings : Findings) :
    Extends policy findings
      (declarationEffect policy typeToken name type initial findings).2 := by
  have declared := findings.extends_declare policy type typeToken.location.line name
  simp only [declarationEffect]
  split
  · exact declared.trans (.of_eq (diagnostics_storeInitialValue _ _ _))
  · exact declared

theorem extends_expressionEffect (tokens : List Token) (semicolon : Token) (findings : Findings) :
    Extends policy findings (expressionEffect tokens semicolon findings).2 := by
  unfold expressionEffect
  split
  · exact (findings.checked_checkAssignment _ _).extends policy
  · exact .of_eq rfl

theorem extends_settle (outcome : Except Rejection Statement × Findings) :
    Extends policy outcome.2 (settle outcome) := by
  unfold settle
  split
  · exact .of_eq rfl
  · exact .record (.rejection _)

theorem extends_close (opening : Token) (missing : Option Token) (findings : Findings) :
    Extends policy findings (close opening missing findings) := by
  cases missing with
  | none => exact .of_eq rfl
  | some found => exact .record (.rejection _)

mutual
/-- **The log only grows**, by rejections and broken rules. -/
theorem effect_extends : ∀ (reading : ParseTree) (findings : Findings),
    Extends policy findings (reading.effect policy findings).2
  | .declaration _ _ _ _ _, findings => extends_declarationEffect policy _ _ _ _ findings
  | .read _ _, findings => (findings.checked_checkName _).extends policy
  | .write _ _, findings => (findings.checked_checkLeadingName _).extends policy
  | .ifThen _ _ consequence, findings =>
      ((findings.checked_checkCondition _ _ _).extends policy).trans (effect_extends consequence _)
  | .ifThenElse _ _ consequence alternative, findings =>
      ((findings.checked_checkCondition _ _ _).extends policy).trans
        ((effect_extends consequence _).trans (effect_extends alternative _))
  | .loop _ _ body, findings => effect_extends body findings
  | .block opening items missing, findings =>
      (Extends.of_eq rfl).trans ((effectAll_extends items findings.enter).trans
        ((extends_close policy opening missing _).trans (.of_eq (diagnostics_leave _))))
  | .expression tokens semicolon, findings =>
      extends_expressionEffect policy tokens semicolon findings
  | .rejected _, _ => .of_eq rfl

theorem effectAll_extends : ∀ (readings : List ParseTree) (findings : Findings),
    Extends policy findings (effectAll policy readings findings).2
  | [], _ => .of_eq rfl
  | reading :: others, findings =>
      (effect_extends reading findings).trans
        ((extends_settle policy (reading.effect policy findings)).trans
          (effectAll_extends others _))
end

end ParseTree

end NumericLanguage
