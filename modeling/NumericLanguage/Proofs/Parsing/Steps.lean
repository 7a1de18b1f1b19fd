import NumericLanguage.Statement.Rules
import NumericLanguage.Proofs.Outcome

/-!
# What a parsing step does

A state of parsing is a place in the stream, a number of open statements, and what has been found
so far. This module says what each single step does at a place: the steps that read tokens move
the place and leave the findings alone, the steps that record and declare change the findings and
leave the place alone.

A rule is a sequence of steps, so that its run follows by computing one step after the other
(`bind_apply`), and the steps of a given run are found by taking it apart (`bind_eq_ok`).
-/

set_option autoImplicit false

namespace NumericLanguage

/-! ## Places and findings -/

/-- What has been found so far: the part of a state that does not say where it stands. -/
structure Findings where
  table : ScopeTable
  diagnostics : DiagnosticLog
  journal : List Event

namespace Findings

/-- Nothing declared and nothing recorded. -/
def nothing : Findings := ⟨.empty, [], []⟩

/-- The findings with one more event in the journal. -/
def note (findings : Findings) (event : Event) : Findings :=
  { findings with journal := findings.journal ++ [event] }

/-- The findings with one more diagnostic. -/
def record (findings : Findings) (diagnostic : Diagnostic) : Findings where
  table := findings.table
  diagnostics := findings.diagnostics.record diagnostic
  journal := findings.journal ++ [.recorded diagnostic]

/-- The findings with a broken rule at a token. -/
def report (findings : Findings) (fault : SemanticFault) (token : Token) : Findings :=
  findings.record (fault.diagnostic token.location)

/-- The findings inside a new scope. -/
def enter (findings : Findings) : Findings where
  table := findings.table.enter
  diagnostics := findings.diagnostics
  journal := findings.journal ++ [.scopeEntered findings.table.enter.current.name]

/-- The findings outside of the innermost scope. -/
def leave (findings : Findings) : Findings :=
  match findings.table.leave with
  | .ok (scope, table) => { findings with table := table }.note (.scopeLeft scope.name)
  | .error _ => findings

/-- The findings after a redeclaration. -/
def redeclare (findings : Findings) (policy : RedeclarationPolicy)
    (redeclaration : Redeclaration) : Findings :=
  let noted := findings.note (.redeclared redeclaration.location.line redeclaration.name)
  if policy.reported then noted.record (redeclaration.diagnosticAs policy.severity) else noted

/-- Whether a name was free in the innermost scope, and the findings after declaring it. -/
def declare (findings : Findings) (policy : RedeclarationPolicy) (type : ValueType) (line : Int)
    (name : Token) : Bool × Findings :=
  match findings.table.declare name.lexeme type line name.location none with
  | .ok (declaration, table) =>
      (true, { findings with table := table }.note
        (.declared declaration.name type declaration.scope))
  | .error redeclaration => (false, findings.redeclare policy redeclaration)

/-- The findings with the value of a single number stored in the declaration of a name. -/
def storeInitialValue (findings : Findings) (name : Token) (expression : List Token) : Findings :=
  match Parse.initialValue expression with
  | some value => { findings with table := findings.table.storeValue name.lexeme value }
  | none => findings

/-- The findings after checking that a read name is visible. -/
def checkName (findings : Findings) (name : Token) : Findings :=
  if (findings.table.lookup name.lexeme).isNone then
    findings.report (.undeclared name.lexeme) name
  else findings

/-- The findings after checking that the leading name of an expression is visible. -/
def checkLeadingName (findings : Findings) : List Token → Findings
  | first :: _ => if first.kind = .identifier then findings.checkName first else findings
  | [] => findings

/-- The findings after checking that a condition is a number. -/
def checkCondition (findings : Findings) (keyword : Token) (condition : List Token)
    (type : ValueType) : Findings :=
  if type.isNumeric then findings
  else findings.report (.nonNumericCondition type) (condition.head?.getD keyword)

/-- The findings after checking an assignment of a value of some type. -/
def checkAssignment (findings : Findings) (target : Token) (type : ValueType) : Findings :=
  match findings.table.lookup target.lexeme with
  | none => findings.report (.undeclared target.lexeme) target
  | some declaration =>
      if declaration.type.narrows type then
        findings.report (.narrowing target.lexeme declaration.type type) target
      else findings

end Findings

namespace ParseState

/-- The state at a place in a stream, with a number of open statements and with findings. -/
def place (stream : TokenStream) (nesting : Nat) (findings : Findings) : ParseState where
  stream := stream
  nesting := nesting
  table := findings.table
  diagnostics := findings.diagnostics
  journal := findings.journal

/-- What has been found up to a state. -/
def findings (state : ParseState) : Findings := ⟨state.table, state.diagnostics, state.journal⟩

@[simp] theorem stream_place (stream : TokenStream) (nesting : Nat) (findings : Findings) :
    (place stream nesting findings).stream = stream := rfl

@[simp] theorem table_place (stream : TokenStream) (nesting : Nat) (findings : Findings) :
    (place stream nesting findings).table = findings.table := rfl

@[simp] theorem diagnostics_place (stream : TokenStream) (nesting : Nat) (findings : Findings) :
    (place stream nesting findings).diagnostics = findings.diagnostics := rfl

end ParseState

namespace Parse

open ParseState

variable {α β : Type}

/-! ## Ends of runs -/

/-- A run that ends at a place, with a result or with a rejection, and with findings. -/
def ended (stream : TokenStream) (nesting : Nat) :
    Except Rejection α × Findings → EStateM.Result Failure ParseState α
  | (.ok result, findings) => .ok result (place stream nesting findings)
  | (.error rejection, findings) => .error (.rejected rejection) (place stream nesting findings)

/-! ## Reading tokens -/

section Reading

variable {stream : TokenStream} {front rest : List Token} {token stop : Token} {nesting : Nat}
  {findings : Findings} {kind : TokenKind} {context : String}

theorem peek_place :
    peek (place stream nesting findings) = .ok stream.peek (place stream nesting findings) := rfl

theorem check_place :
    check kind (place stream nesting findings) =
      .ok (stream.startsWith kind) (place stream nesting findings) := rfl

theorem advance_place :
    advance (place ⟨front, token :: rest, stop⟩ nesting findings) =
      .ok token (place ⟨token :: front, rest, stop⟩ nesting findings) := rfl

/-- A stream whose next token is of another kind, or that ends, does not start with a kind. -/
theorem startsWith_of_ne (other : ∀ next ∈ stream.rest.head?, next.kind ≠ kind) :
    stream.startsWith kind = false := by
  unfold TokenStream.startsWith
  cases ahead : stream.rest.head? with
  | none => rfl
  | some next => simpa using other next (by rw [ahead]; rfl)

theorem accept_of_eq (same : token.kind = kind) :
    accept kind (place ⟨front, token :: rest, stop⟩ nesting findings) =
      .ok true (place ⟨token :: front, rest, stop⟩ nesting findings) := by
  have present : TokenStream.startsWith ⟨front, token :: rest, stop⟩ kind = true := by
    simpa [TokenStream.startsWith] using same
  rw [accept, bind_of_ok check_place, if_pos present, bind_of_ok advance_place, pure_apply]

theorem accept_of_ne (other : ∀ next ∈ stream.rest.head?, next.kind ≠ kind) :
    accept kind (place stream nesting findings) =
      .ok false (place stream nesting findings) := by
  rw [accept, bind_of_ok check_place, startsWith_of_ne other, if_neg (by simp), pure_apply]

theorem expect_of_eq (same : token.kind = kind) :
    expect kind context (place ⟨front, token :: rest, stop⟩ nesting findings) =
      .ok () (place ⟨front, token :: rest, stop⟩ nesting findings) := by
  have present : TokenStream.startsWith ⟨front, token :: rest, stop⟩ kind = true := by
    simpa [TokenStream.startsWith] using same
  rw [expect, bind_of_ok check_place, present]
  rfl

theorem expect_of_ne (other : ∀ next ∈ stream.rest.head?, next.kind ≠ kind) :
    expect kind context (place stream nesting findings) =
      .error (.rejected ⟨.expected kind context, stream.peek⟩)
        (place stream nesting findings) := by
  rw [expect, bind_of_ok check_place, startsWith_of_ne other]
  rfl

theorem consume_of_eq (same : token.kind = kind) :
    consume kind context (place ⟨front, token :: rest, stop⟩ nesting findings) =
      .ok token (place ⟨token :: front, rest, stop⟩ nesting findings) := by
  rw [consume, bind_of_ok (expect_of_eq same), advance_place]

theorem consume_of_ne (other : ∀ next ∈ stream.rest.head?, next.kind ≠ kind) :
    consume kind context (place stream nesting findings) =
      .error (.rejected ⟨.expected kind context, stream.peek⟩)
        (place stream nesting findings) := by
  rw [consume, bind_of_error (expect_of_ne other)]

theorem capture_place :
    capture (place stream nesting findings) =
      .ok (captured 0 stream.rest)
        (place (stream.moveOver (captured 0 stream.rest).length) nesting findings) := rfl

end Reading

/-! ## Recording and declaring -/

section Finding

variable {stream : TokenStream} {nesting : Nat} {findings : Findings}

theorem record_place (diagnostic : Diagnostic) :
    record diagnostic (place stream nesting findings) =
      .ok () (place stream nesting (findings.record diagnostic)) := rfl

theorem declareName_place (policy : RedeclarationPolicy) (type : ValueType) (line : Int)
    (name : Token) :
    declareName policy type line name (place stream nesting findings) =
      .ok (findings.declare policy type line name).1
        (place stream nesting (findings.declare policy type line name).2) := by
  rw [declareName, bind_of_ok (get_apply _), Findings.declare]
  cases declared : findings.table.declare name.lexeme type line name.location none with
  | ok parts =>
      simp only [place, declared]
      rfl
  | error redeclaration =>
      simp only [place, declared, reportRedeclaration, Findings.redeclare]
      cases policy.reported <;> rfl

theorem storeInitialValue_place (name : Token) (expression : List Token) :
    storeInitialValue name expression (place stream nesting findings) =
      .ok () (place stream nesting (findings.storeInitialValue name expression)) := by
  unfold storeInitialValue Findings.storeInitialValue
  cases initialValue expression <;> rfl

theorem checkLeadingName_place (expression : List Token) :
    checkLeadingName expression (place stream nesting findings) =
      .ok () (place stream nesting (findings.checkLeadingName expression)) := by
  cases expression with
  | nil => rfl
  | cons first others =>
      rw [checkLeadingName, bind_of_ok (get_apply _)]
      unfold Findings.checkLeadingName Findings.checkName
      by_cases named : first.kind = .identifier
      · cases visible : findings.table.lookup first.lexeme <;>
          simp [place, named, visible, ScopeTable.isVisible] <;> rfl
      · simp [named]
        rfl

theorem checkCondition_place (keyword : Token) (condition : List Token) (type : ValueType) :
    checkCondition keyword condition type (place stream nesting findings) =
      .ok () (place stream nesting (findings.checkCondition keyword condition type)) := by
  unfold checkCondition Findings.checkCondition
  cases type.isNumeric <;> rfl

theorem checkAssignment_place (target : Token) (type : ValueType) :
    checkAssignment target type (place stream nesting findings) =
      .ok () (place stream nesting (findings.checkAssignment target type)) := by
  rw [checkAssignment, bind_of_ok (get_apply _)]
  unfold Findings.checkAssignment
  cases visible : findings.table.lookup target.lexeme with
  | none =>
      simp only [place, visible]
      rfl
  | some declaration =>
      simp only [place, visible]
      cases declaration.type.narrows type <;> rfl

end Finding

/-! ## Scopes and nesting -/

/-- A failure that is no rejection, so that it is not caught. -/
def Escapes (failure : Failure) : Prop := ∀ rejection, failure ≠ .rejected rejection

/-- A run that ends with a failure that is not caught. -/
def Aborts (result : EStateM.Result Failure ParseState α) : Prop :=
  ∃ failure final, result = .error failure final ∧ Escapes failure

theorem Aborts.bind {first : Parse α} {state : ParseState} (aborts : Aborts (first state))
    (next : α → Parse β) : Aborts ((first >>= next) state) := by
  obtain ⟨failure, final, run, escapes⟩ := aborts
  exact ⟨failure, final, bind_of_error run, escapes⟩

section Enclosing

variable {stream final : TokenStream} {nesting : Nat} {findings found : Findings}
  {body : Parse α} {result : α}

theorem nested_apply :
    nested body (place stream nesting findings) =
      andAlways body (modify fun state => { state with nesting := state.nesting - 1 })
        (place stream (nesting + 1) findings) := rfl

/-- A step with one more statement open around it ends with as many open as before. -/
theorem nested_of_ended {outcome : Except Rejection α × Findings}
    (run : body (place stream (nesting + 1) findings) = ended final (nesting + 1) outcome) :
    nested body (place stream nesting findings) = ended final nesting outcome := by
  rw [nested_apply, andAlways, run]
  obtain ⟨_ | _, found⟩ := outcome <;> rfl

theorem nested_of_aborts (aborts : Aborts (body (place stream (nesting + 1) findings))) :
    Aborts (nested body (place stream nesting findings)) := by
  obtain ⟨failure, last, run, escapes⟩ := aborts
  rw [nested_apply, andAlways, run]
  exact ⟨failure, _, rfl, escapes⟩

theorem inScope_apply :
    inScope body (place stream nesting findings) =
      andAlways body leaveScope (place stream nesting findings.enter) := rfl

/-- A step inside a new scope ends with the scopes from before. -/
theorem inScope_of_ok
    (run : body (place stream nesting findings.enter) = .ok result (place final nesting found))
    (inside : found.table.enclosing ≠ []) :
    inScope body (place stream nesting findings) =
      .ok result (place final nesting found.leave) := by
  obtain ⟨⟨current, _ | ⟨outer, others⟩, opened⟩, diagnostics, journal⟩ := found
  · exact absurd rfl inside
  · rw [inScope_apply, andAlways, run]
    rfl

theorem inScope_of_aborts (aborts : Aborts (body (place stream nesting findings.enter))) :
    Aborts (inScope body (place stream nesting findings)) := by
  obtain ⟨failure, last, run, escapes⟩ := aborts
  rw [inScope_apply, andAlways, run]
  cases left : leaveScope last with
  | ok _ after => exact ⟨failure, after, by simp only [left], escapes⟩
  | error other after =>
      refine ⟨other, after, by simp only [left], ?_⟩
      rw [leaveScope, bind_of_ok (get_apply _)] at left
      cases closed : last.table.leave with
      | ok parts =>
          rw [closed] at left
          cases left
      | error fault =>
          rw [closed] at left
          cases left
          intro rejection same
          cases same

end Enclosing

/-! ## Repetition -/

section Repetition

variable {stops : TokenStream → Bool} {step : Parse (Option α)}

theorem untilStream_of_stop {state : ParseState} (stopped : stops state.stream = true)
    (fuel : Nat) : untilStream stops step fuel state = .ok [] state := by
  cases fuel with
  | zero => rfl
  | succ fuel => rw [untilStream, bind_of_ok (get_apply state), if_pos stopped, pure_apply]

theorem untilStream_of_go {state : ParseState} (goesOn : stops state.stream = false)
    (fuel : Nat) :
    untilStream stops step (fuel + 1) state =
      (do
        let first ← step
        let others ← untilStream stops step fuel
        return first.toList ++ others : Parse (List α)) state := by
  rw [untilStream, bind_of_ok (get_apply state), if_neg (by simp [goesOn])]

/-- A step that moves on is run again and again until the stream satisfies a test. -/
inductive Repeats (stops : TokenStream → Bool) (step : Parse (Option α)) :
    ParseState → List α → ParseState → Prop
  | done {state : ParseState} : stops state.stream = true → Repeats stops step state [] state
  | next {state middle final : ParseState} {first : Option α} {others : List α} :
      stops state.stream = false → step state = .ok first middle →
      middle.stream.rest.length < state.stream.rest.length →
      Repeats stops step middle others final →
      Repeats stops step state (first.toList ++ others) final

/-- As many rounds as there are tokens are enough for a step that moves on. -/
theorem Repeats.untilStream {state final : ParseState} {results : List α}
    (repeats : Repeats stops step state results final) {fuel : Nat}
    (enough : state.stream.rest.length ≤ fuel) :
    untilStream stops step fuel state = .ok results final := by
  induction repeats generalizing fuel with
  | done stopped => exact untilStream_of_stop stopped fuel
  | next goesOn run shorter _ ih =>
      cases fuel with
      | zero => omega
      | succ fuel =>
          rw [untilStream_of_go goesOn, bind_of_ok run, bind_of_ok (ih (by omega)), pure_apply]

theorem Repeats.repeatUntil {state final : ParseState} {results : List α}
    (repeats : Repeats stops step state results final) :
    repeatUntil stops step state = .ok results final := by
  rw [Parse.repeatUntil, bind_of_ok (get_apply state)]
  exact repeats.untilStream (Nat.le_refl _)

end Repetition

end Parse

end NumericLanguage
