import NumericLanguage.Proofs.Analysis.Run
import NumericLanguage.Proofs.Reading.Simulation

/-!
# Analyses under different policies

What is done about redeclarations changes how they are recorded and nothing else. The effects of one
reading under the default policy and under another one go side by side: before and behind each item
the tables of scopes are the same, and the log under the other policy is a view of the default one
(`Findings.Viewed.simulation`).
-/

set_option autoImplicit false

namespace NumericLanguage

open ParseState

/-! ## Views of a log -/

namespace Diagnostic

/-- Whether a diagnostic is about a redeclaration. -/
def isRedeclaration (diagnostic : Diagnostic) : Bool := diagnostic.code = some "S011"

/-- The diagnostic, as an error if it is about a redeclaration. -/
def escalated (diagnostic : Diagnostic) : Diagnostic :=
  if diagnostic.isRedeclaration then { diagnostic with severity := .error } else diagnostic

end Diagnostic

/-- What a policy makes of a log that was recorded under the default one. -/
def RedeclarationPolicy.view (policy : RedeclarationPolicy) (log : DiagnosticLog) :
    DiagnosticLog :=
  if policy.reported then
    if policy.asErrors then log.map Diagnostic.escalated else log
  else log.filter fun diagnostic => !diagnostic.isRedeclaration

@[simp] theorem SemanticFault.isRedeclaration_diagnosticAs (fault : SemanticFault)
    (severity : Severity) (location : Location) :
    (fault.diagnosticAs severity location).isRedeclaration =
      match fault with
      | .redeclared _ _ => true
      | _ => false := by
  cases fault <;> simp [Diagnostic.isRedeclaration, diagnosticAs, code]

@[simp] theorem Rejection.isRedeclaration_diagnostic (rejection : Rejection) :
    rejection.diagnostic.isRedeclaration = false := by
  obtain ⟨fault, found⟩ := rejection
  cases fault <;> simp [Diagnostic.isRedeclaration, diagnostic, SyntaxFault.code]

@[simp] theorem LexicalFault.isRedeclaration_diagnostic (fault : LexicalFault)
    (location : Location) : (fault.diagnostic location).isRedeclaration = false := by
  cases fault <;> simp [Diagnostic.isRedeclaration, diagnostic, code]

namespace RedeclarationPolicy

variable (policy : RedeclarationPolicy)

theorem view_append (log more : DiagnosticLog) :
    policy.view (log ++ more) = policy.view log ++ policy.view more := by
  unfold view
  split
  · split
    · exact List.map_append
    · rfl
  · exact List.filter_append log more

/-- Without redeclarations a log is the same under every policy. -/
theorem view_eq_self {log : DiagnosticLog}
    (others : ∀ diagnostic ∈ log, diagnostic.isRedeclaration = false) :
    policy.view log = log := by
  unfold view
  split
  · split
    · refine (List.map_congr_left fun diagnostic inside => ?_).trans (List.map_id log)
      rw [Diagnostic.escalated, others diagnostic inside, if_neg Bool.false_ne_true]
      rfl
    · rfl
  · refine List.filter_eq_self.mpr ?_
    intro diagnostic inside
    rw [others diagnostic inside, Bool.not_false]

/-- A redeclaration is viewed as it is recorded. -/
theorem view_redeclaration (redeclaration : Redeclaration) :
    policy.view [redeclaration.diagnosticAs (severity {})] =
      if policy.reported then [redeclaration.diagnosticAs policy.severity] else [] := by
  obtain ⟨asErrors, reported⟩ := policy
  have redeclared (severity : Severity) :
      (redeclaration.diagnosticAs severity).isRedeclaration = true := by
    simp [Redeclaration.diagnosticAs, Redeclaration.fault]
  cases reported with
  | false => simp [view, redeclared]
  | true =>
      cases asErrors with
      | false => rfl
      | true =>
          simp only [view, if_true, List.map_cons, List.map_nil, Diagnostic.escalated, redeclared]
          rfl

end RedeclarationPolicy

/-! ## Findings side by side -/

namespace Findings

/-- Findings under the default policy and under another one: the tables are the same, and the log is
what the other policy makes of the default one. -/
structure Viewed (policy : RedeclarationPolicy) (plain seen : Findings) : Prop where
  table : seen.table = plain.table
  diagnostics : seen.diagnostics = policy.view plain.diagnostics

namespace Viewed

variable {policy : RedeclarationPolicy} {plain seen : Findings}

theorem record (viewed : Viewed policy plain seen) {diagnostic : Diagnostic}
    (other : diagnostic.isRedeclaration = false) :
    Viewed policy (plain.record diagnostic) (seen.record diagnostic) := by
  refine ⟨viewed.table, ?_⟩
  have single : policy.view [diagnostic] = [diagnostic] := by
    refine policy.view_eq_self ?_
    intro same inside
    rw [List.mem_singleton.mp inside, other]
  calc seen.diagnostics ++ [diagnostic]
      = policy.view plain.diagnostics ++ policy.view [diagnostic] := by
        rw [viewed.diagnostics, single]
    _ = policy.view (plain.diagnostics ++ [diagnostic]) := (policy.view_append _ _).symm

theorem report (viewed : Viewed policy plain seen) {fault : SemanticFault} (token : Token)
    (other : ∀ name line, fault ≠ .redeclared name line) :
    Viewed policy (plain.report fault token) (seen.report fault token) := by
  apply viewed.record
  rw [SemanticFault.diagnostic, SemanticFault.isRedeclaration_diagnosticAs]
  split
  · exact absurd rfl (other _ _)
  · rfl

/-- This is the one place where the policies differ. -/
theorem redeclare (viewed : Viewed policy plain seen) (redeclaration : Redeclaration) :
    Viewed policy (plain.redeclare {} redeclaration) (seen.redeclare policy redeclaration) := by
  refine ⟨?_, ?_⟩
  · rw [table_redeclare, table_redeclare, viewed.table]
  · have recorded : (plain.redeclare {} redeclaration).diagnostics =
        plain.diagnostics ++ [redeclaration.diagnosticAs (RedeclarationPolicy.severity {})] := rfl
    rw [recorded, policy.view_append, policy.view_redeclaration, ← viewed.diagnostics]
    simp only [Findings.redeclare]
    split
    · rfl
    · exact (List.append_nil _).symm

/-- **Policies go side by side**: whatever a reading does to findings, the tables stay the same, and
the log under a policy stays what the policy makes of the default one. -/
theorem simulation (policy : RedeclarationPolicy) : Simulation {} policy (Viewed policy) where
  table := Viewed.table
  retable _ viewed := ⟨rfl, viewed.diagnostics⟩
  note _ viewed := ⟨viewed.table, viewed.diagnostics⟩
  reject _ viewed := viewed.record (Rejection.isRedeclaration_diagnostic _)
  report token other viewed := viewed.report token other
  redeclare redeclaration viewed := viewed.redeclare redeclaration

end Viewed

end Findings

/-! ## Effects side by side -/

/-- Outcomes under the default policy and under another one: the results are the same, and what was
found agrees. -/
structure Agree {α : Type} (policy : RedeclarationPolicy) (plain seen : α × Findings) : Prop where
  result : seen.1 = plain.1
  findings : Findings.Viewed policy plain.2 seen.2

namespace ParseTree

variable {policy : RedeclarationPolicy} {plain seen : Findings}

/-- Readings have the same records under a policy, and leave the view that the policy has of the
default findings. -/
theorem effectAll_agrees (readings : List ParseTree) (viewed : Findings.Viewed policy plain seen) :
    Agree policy (effectAll {} readings plain) (effectAll policy readings seen) :=
  have same := (Findings.Viewed.simulation policy).effectAll readings viewed
  ⟨same.result, same.findings⟩

end ParseTree

end NumericLanguage
