import NumericLanguage.Proofs.Grammar.Heading
import NumericLanguage.Proofs.Parsing.Steps

/-!
# Readings

A reading is what the parser makes of some tokens, whether they are in the grammar or not. It is a
tree with a node for each declaration and each statement that was begun. A statement may have been
abandoned, a declaration may lack its semicolon, and a block may lack its closing brace; among the
items of a block or a program, the rejection of an abandoned one is recorded and the next one
follows.

The tokens decide on the reading, and the reading on everything else: the effect of a reading on
what has been found so far is a function of the reading alone. The types of expressions and the
rules about names depend on what was declared before; the outline of the records (`effect_untyped`),
the rejections (`effect_syntactic`) and the scopes around the innermost one (`effect_enclosing`) do
not.
-/

set_option autoImplicit false

namespace NumericLanguage

/-! ## Trees -/

/-- What the parser makes of the tokens of a declaration, a statement or a block. -/
inductive ParseTree
  /-- A declaration; if its semicolon is missing it is abandoned after the name was declared. -/
  | declaration (typeToken name : Token) (type : ValueType) (initial : Option (List Token))
      (missing : Option Rejection)
  | read (keyword name : Token)
  | write (keyword : Token) (expression : List Token)
  | ifThen (keyword : Token) (condition : List Token) (consequence : ParseTree)
  | ifThenElse (keyword : Token) (condition : List Token) (consequence alternative : ParseTree)
  | loop (keyword : Token) (condition : List Token) (body : ParseTree)
  /-- A block; if its closing brace is missing, with the token that was found instead. -/
  | block (opening : Token) (items : List ParseTree) (missing : Option Token)
  /-- The tokens of an expression and the semicolon behind them. -/
  | expression (tokens : List Token) (semicolon : Token)
  /-- Tokens that were abandoned before they had any effect. -/
  | rejected (rejection : Rejection)

namespace ParseTree

mutual
/-- The record of a reading without types, or the rejection with which it was abandoned. -/
def outline : ParseTree → Except Rejection Statement
  | declaration typeToken name _ initial none =>
      .ok ((Heading.declaration typeToken name initial).toStatement none [])
  | declaration _ _ _ _ (some rejection) => .error rejection
  | read keyword name => .ok ((Heading.read keyword name).toStatement none [])
  | write keyword tokens => .ok ((Heading.write keyword tokens).toStatement none [])
  | ifThen keyword condition consequence =>
      consequence.outline.map fun first =>
        (Heading.ifThen keyword condition).toStatement none [first]
  | ifThenElse keyword condition consequence alternative =>
      consequence.outline.bind fun first => alternative.outline.map fun second =>
        (Heading.ifThenElse keyword condition).toStatement none [first, second]
  | loop keyword condition body =>
      body.outline.map fun inside => (Heading.loop keyword condition).toStatement none [inside]
  | block opening items _ => .ok ((Heading.block opening).toStatement none (outlineAll items))
  | expression tokens semicolon =>
      .ok ((Heading.expression tokens semicolon).toStatement none [])
  | rejected rejection => .error rejection

/-- The records without types of those among some readings that were not abandoned. -/
def outlineAll : List ParseTree → List Statement
  | [] => []
  | reading :: others => reading.outline.toOption.toList ++ outlineAll others
end

/-- The rejection with which a reading was abandoned, if it was. -/
def rejection? (reading : ParseTree) : Option Rejection :=
  match reading.outline with
  | .ok _ => none
  | .error rejection => some rejection

mutual
/-- The rejections that are recorded inside a reading. -/
def recorded : ParseTree → List Rejection
  | ifThen _ _ consequence => consequence.recorded
  | ifThenElse _ _ consequence alternative => consequence.recorded ++ alternative.recorded
  | loop _ _ body => body.recorded
  | block opening items missing =>
      recordedAll items ++
        (missing.map fun found => ⟨.unclosedBlock opening.location, found⟩).toList
  | _ => []

/-- The rejections that are recorded inside and behind some readings. -/
def recordedAll : List ParseTree → List Rejection
  | [] => []
  | reading :: others => reading.recorded ++ reading.rejection?.toList ++ recordedAll others
end

/-! ## Effects -/

/-- The findings behind an item: the rejection of an abandoned one is recorded. -/
def settle (outcome : Except Rejection Statement × Findings) : Findings :=
  match outcome.1 with
  | .ok _ => outcome.2
  | .error rejection => outcome.2.record rejection.diagnostic

/-- The findings at the end of a block: a missing brace is recorded. -/
def close (opening : Token) (missing : Option Token) (findings : Findings) : Findings :=
  match missing with
  | none => findings
  | some found => findings.record (Rejection.diagnostic ⟨.unclosedBlock opening.location, found⟩)

/-- The record of an expression, and the findings after checking it. -/
def expressionEffect (tokens : List Token) (semicolon : Token) (findings : Findings) :
    Statement × Findings :=
  match Parse.assignment? tokens with
  | some (target, value) =>
      let type := findings.table.infer value
      ((Heading.expression tokens semicolon).toStatement (some type) [],
        findings.checkAssignment target type)
  | none =>
      ((Heading.expression tokens semicolon).toStatement
        (if tokens.isEmpty then none else some (findings.table.infer tokens)) [], findings)

/-- The record of a declaration, and the findings after declaring its name. -/
def declarationEffect (policy : RedeclarationPolicy) (typeToken name : Token) (type : ValueType)
    (initial : Option (List Token)) (findings : Findings) : Statement × Findings :=
  let declared := findings.declare policy type typeToken.location.line name
  ((Heading.declaration typeToken name initial).toStatement
      (initial.map declared.2.table.infer) [],
    if declared.1 then declared.2.storeInitialValue name (initial.getD []) else declared.2)

variable (policy : RedeclarationPolicy)

mutual
/-- The typed record of a reading, or the rejection with which it was abandoned, and the findings
behind it. -/
def effect : ParseTree → Findings → Except Rejection Statement × Findings
  | declaration typeToken name type initial missing, findings =>
      let done := declarationEffect policy typeToken name type initial findings
      (match missing with
        | none => .ok done.1
        | some rejection => .error rejection, done.2)
  | read keyword name, findings =>
      (.ok ((Heading.read keyword name).toStatement
          ((findings.table.lookup name.lexeme).map Declaration.type) []),
        findings.checkName name)
  | write keyword tokens, findings =>
      let checked := findings.checkLeadingName tokens
      (.ok ((Heading.write keyword tokens).toStatement (some (checked.table.infer tokens)) []),
        checked)
  | ifThen keyword condition consequence, findings =>
      let type := findings.table.infer condition
      let first := consequence.effect (findings.checkCondition keyword condition type)
      (first.1.map fun inside =>
        (Heading.ifThen keyword condition).toStatement (some type) [inside], first.2)
  | ifThenElse keyword condition consequence alternative, findings =>
      let type := findings.table.infer condition
      let first := consequence.effect (findings.checkCondition keyword condition type)
      let second := alternative.effect first.2
      (first.1.bind fun inside => second.1.map fun other =>
        (Heading.ifThenElse keyword condition).toStatement (some type) [inside, other], second.2)
  | loop keyword condition body, findings =>
      let done := body.effect findings
      (done.1.map fun inside => (Heading.loop keyword condition).toStatement
        (some (done.2.table.infer condition)) [inside], done.2)
  | block opening items missing, findings =>
      let done := effectAll items findings.enter
      (.ok ((Heading.block opening).toStatement none done.1),
        (close opening missing done.2).leave)
  | expression tokens semicolon, findings =>
      let done := expressionEffect tokens semicolon findings
      (.ok done.1, done.2)
  | rejected rejection, findings => (.error rejection, findings)

/-- The typed records of those among some readings that were not abandoned, and the findings
behind all of them. -/
def effectAll : List ParseTree → Findings → List Statement × Findings
  | [], findings => ([], findings)
  | reading :: others, findings =>
      let first := reading.effect findings
      let second := effectAll others (settle first)
      (first.1.toOption.toList ++ second.1, second.2)
end

end ParseTree

/-! ## Checks -/

/-- What a check does to findings: nothing, or it reports a fault that is no redeclaration. -/
inductive Findings.Checked (findings : Findings) : Findings → Prop
  | passed : Checked findings findings
  | reported (fault : SemanticFault) (token : Token) :
      (∀ name line, fault ≠ .redeclared name line) → Checked findings (findings.report fault token)

namespace Findings

variable (findings : Findings)

theorem checked_checkName (name : Token) : findings.Checked (findings.checkName name) := by
  unfold checkName
  split
  · exact .reported _ _ (fun _ _ => nofun)
  · exact .passed

theorem checked_checkLeadingName (expression : List Token) :
    findings.Checked (findings.checkLeadingName expression) := by
  unfold checkLeadingName
  split
  · split
    · exact findings.checked_checkName _
    · exact .passed
  · exact .passed

theorem checked_checkCondition (keyword : Token) (condition : List Token) (type : ValueType) :
    findings.Checked (findings.checkCondition keyword condition type) := by
  unfold checkCondition
  split
  · exact .passed
  · exact .reported _ _ (fun _ _ => nofun)

theorem checked_checkAssignment (target : Token) (type : ValueType) :
    findings.Checked (findings.checkAssignment target type) := by
  unfold checkAssignment
  split
  · exact .reported _ _ (fun _ _ => nofun)
  · split
    · exact .reported _ _ (fun _ _ => nofun)
    · exact .passed

end Findings

/-! ## Scopes -/

namespace Findings

variable (findings : Findings) (policy : RedeclarationPolicy)

/-- Checks leave the table alone. -/
theorem Checked.table {findings after : Findings} (checked : findings.Checked after) :
    after.table = findings.table := by
  cases checked with
  | passed => rfl
  | reported fault token other => rfl

@[simp] theorem table_checkName (name : Token) :
    (findings.checkName name).table = findings.table :=
  (findings.checked_checkName name).table

@[simp] theorem table_checkLeadingName (expression : List Token) :
    (findings.checkLeadingName expression).table = findings.table :=
  (findings.checked_checkLeadingName expression).table

@[simp] theorem table_checkCondition (keyword : Token) (condition : List Token)
    (type : ValueType) :
    (findings.checkCondition keyword condition type).table = findings.table :=
  (findings.checked_checkCondition keyword condition type).table

@[simp] theorem table_checkAssignment (target : Token) (type : ValueType) :
    (findings.checkAssignment target type).table = findings.table :=
  (findings.checked_checkAssignment target type).table

@[simp] theorem table_redeclare (redeclaration : Redeclaration) :
    (findings.redeclare policy redeclaration).table = findings.table := by
  unfold redeclare
  dsimp only
  split <;> rfl

/-- Declaring a name changes no enclosing scope. -/
@[simp] theorem enclosing_declare (type : ValueType) (line : Int) (name : Token) :
    (findings.declare policy type line name).2.table.enclosing = findings.table.enclosing := by
  unfold declare ScopeTable.declare
  split
  · rename_i declared
    split at declared
    · cases declared
    · cases declared
      rfl
  · rw [table_redeclare]

@[simp] theorem enclosing_storeInitialValue (name : Token) (expression : List Token) :
    (findings.storeInitialValue name expression).table.enclosing = findings.table.enclosing := by
  unfold storeInitialValue
  split <;> rfl

/-- Leaving a scope that was entered gives back the enclosing scopes. -/
theorem enclosing_leave {inside : Findings}
    (same : inside.table.enclosing = findings.enter.table.enclosing) :
    inside.leave.table.enclosing = findings.table.enclosing := by
  obtain ⟨⟨current, enclosing, opened⟩, diagnostics, journal⟩ := inside
  cases same
  rfl

/-- The recorded diagnostics about grammar. -/
def syntactic : List Diagnostic := findings.diagnostics.ofCategory .syntactic

theorem syntactic_record (diagnostic : Diagnostic) :
    (findings.record diagnostic).syntactic =
      findings.syntactic ++ if diagnostic.category = .syntactic then [diagnostic] else [] := by
  unfold syntactic DiagnosticLog.ofCategory record DiagnosticLog.record
  rw [List.filter_append]
  by_cases same : diagnostic.category = .syntactic <;> simp [same]

@[simp] theorem syntactic_rejection (rejection : Rejection) :
    (findings.record rejection.diagnostic).syntactic =
      findings.syntactic ++ [rejection.diagnostic] := by
  rw [syntactic_record]
  exact congrArg (findings.syntactic ++ ·) (if_pos rfl)

@[simp] theorem syntactic_report (fault : SemanticFault) (token : Token) :
    (findings.report fault token).syntactic = findings.syntactic := by
  rw [report, syntactic_record, if_neg (by simp [SemanticFault.diagnostic,
    SemanticFault.diagnosticAs]), List.append_nil]

@[simp] theorem syntactic_note (event : Event) :
    (findings.note event).syntactic = findings.syntactic := rfl

@[simp] theorem syntactic_enter : findings.enter.syntactic = findings.syntactic := rfl

@[simp] theorem syntactic_leave : findings.leave.syntactic = findings.syntactic := by
  unfold leave
  split <;> rfl

/-- Checks record nothing about grammar. -/
theorem Checked.syntactic {findings after : Findings} (checked : findings.Checked after) :
    after.syntactic = findings.syntactic := by
  cases checked with
  | passed => rfl
  | reported fault token other => exact findings.syntactic_report fault token

@[simp] theorem syntactic_checkName (name : Token) :
    (findings.checkName name).syntactic = findings.syntactic :=
  (findings.checked_checkName name).syntactic

@[simp] theorem syntactic_checkLeadingName (expression : List Token) :
    (findings.checkLeadingName expression).syntactic = findings.syntactic :=
  (findings.checked_checkLeadingName expression).syntactic

@[simp] theorem syntactic_checkCondition (keyword : Token) (condition : List Token)
    (type : ValueType) :
    (findings.checkCondition keyword condition type).syntactic = findings.syntactic :=
  (findings.checked_checkCondition keyword condition type).syntactic

@[simp] theorem syntactic_checkAssignment (target : Token) (type : ValueType) :
    (findings.checkAssignment target type).syntactic = findings.syntactic :=
  (findings.checked_checkAssignment target type).syntactic

@[simp] theorem syntactic_redeclare (redeclaration : Redeclaration) :
    (findings.redeclare policy redeclaration).syntactic = findings.syntactic := by
  unfold redeclare
  dsimp only
  split
  · rw [syntactic_record, if_neg (by simp [Redeclaration.diagnosticAs,
      SemanticFault.diagnosticAs]), List.append_nil, syntactic_note]
  · rfl

@[simp] theorem syntactic_declare (type : ValueType) (line : Int) (name : Token) :
    (findings.declare policy type line name).2.syntactic = findings.syntactic := by
  unfold declare
  split
  · rfl
  · exact findings.syntactic_redeclare _ _

@[simp] theorem syntactic_storeInitialValue (name : Token) (expression : List Token) :
    (findings.storeInitialValue name expression).syntactic = findings.syntactic := by
  unfold storeInitialValue
  split <;> rfl

end Findings

namespace ParseTree

variable (policy : RedeclarationPolicy)

@[simp] theorem table_settle (outcome : Except Rejection Statement × Findings) :
    (settle outcome).table = outcome.2.table := by
  obtain ⟨_ | _, findings⟩ := outcome <;> rfl

@[simp] theorem table_close (opening : Token) (missing : Option Token) (findings : Findings) :
    (close opening missing findings).table = findings.table := by
  cases missing <;> rfl

mutual
/-- Behind a reading, the scopes around the innermost one are those from before. -/
theorem effect_enclosing : ∀ (reading : ParseTree) (findings : Findings),
    (reading.effect policy findings).2.table.enclosing = findings.table.enclosing
  | .declaration _ _ _ _ _, findings => by
      simp only [effect, declarationEffect]
      split <;> simp
  | .read _ _, findings => by simp [effect]
  | .write _ _, findings => by simp [effect]
  | .ifThen _ _ consequence, findings => by
      simp [effect, effect_enclosing consequence]
  | .ifThenElse _ _ consequence alternative, findings => by
      simp [effect, effect_enclosing consequence, effect_enclosing alternative]
  | .loop _ _ body, findings => by
      simp [effect, effect_enclosing body]
  | .block _ items _, findings => by
      refine findings.enclosing_leave ?_
      rw [table_close, effectAll_enclosing items]
  | .expression tokens _, findings => by
      simp only [effect, expressionEffect]
      split <;> simp
  | .rejected _, _ => rfl

theorem effectAll_enclosing : ∀ (readings : List ParseTree) (findings : Findings),
    (effectAll policy readings findings).2.table.enclosing = findings.table.enclosing
  | [], _ => rfl
  | reading :: others, findings => by
      simp only [effectAll]
      rw [effectAll_enclosing others, table_settle, effect_enclosing reading]
end

/-! ## Outlines and rejections -/

mutual
/-- Without types, the record of a reading depends on nothing that was found before. -/
theorem effect_untyped : ∀ (reading : ParseTree) (findings : Findings),
    (reading.effect policy findings).1.map Statement.untyped = reading.outline
  | .declaration _ _ _ _ none, _ => congrArg Except.ok (Heading.toStatement_untyped _ _ _)
  | .declaration _ _ _ _ (some _), _ => rfl
  | .read _ _, _ => congrArg Except.ok (Heading.toStatement_untyped _ _ _)
  | .write _ _, _ => congrArg Except.ok (Heading.toStatement_untyped _ _ _)
  | .ifThen keyword condition consequence, findings => by
      have first := effect_untyped consequence (findings.checkCondition keyword condition
        (findings.table.infer condition))
      simp only [effect, outline, ← first]
      cases (consequence.effect policy _).1 with
      | error _ => rfl
      | ok _ => exact congrArg Except.ok (Heading.toStatement_untyped _ _ _)
  | .ifThenElse keyword condition consequence alternative, findings => by
      have first := effect_untyped consequence (findings.checkCondition keyword condition
        (findings.table.infer condition))
      simp only [effect, outline, ← first]
      generalize consequence.effect policy _ = middle
      rw [← effect_untyped alternative middle.2]
      cases middle.1 with
      | error _ => rfl
      | ok _ =>
          cases (alternative.effect policy middle.2).1 with
          | error _ => rfl
          | ok _ => exact congrArg Except.ok (Heading.toStatement_untyped _ _ _)
  | .loop keyword condition body, findings => by
      simp only [effect, outline, ← effect_untyped body findings]
      cases (body.effect policy findings).1 with
      | error _ => rfl
      | ok _ => exact congrArg Except.ok (Heading.toStatement_untyped _ _ _)
  | .block _ items _, findings => by
      rw [outline, ← effectAll_untyped items findings.enter]
      exact congrArg Except.ok (Heading.toStatement_untyped _ _ _)
  | .expression tokens semicolon, findings => by
      simp only [effect, expressionEffect]
      split <;> exact congrArg Except.ok (Heading.toStatement_untyped _ _ _)
  | .rejected _, _ => rfl

theorem effectAll_untyped : ∀ (readings : List ParseTree) (findings : Findings),
    Statement.untypedAll (effectAll policy readings findings).1 = outlineAll readings
  | [], _ => rfl
  | reading :: others, findings => by
      simp only [effectAll, outlineAll, ← effect_untyped reading findings]
      rw [← effectAll_untyped others (settle (reading.effect policy findings))]
      cases (reading.effect policy findings).1 <;> rfl
end

/-- An abandoned reading has its rejection for an outcome. -/
theorem effect_of_rejection {reading : ParseTree} {rejection : Rejection}
    (abandoned : reading.rejection? = some rejection) (findings : Findings) :
    (reading.effect policy findings).1 = .error rejection := by
  have same := reading.effect_untyped policy findings
  unfold rejection? at abandoned
  rw [← same] at abandoned
  cases outcome : (reading.effect policy findings).1 with
  | error other =>
      rw [outcome] at abandoned
      cases abandoned
      rfl
  | ok statement =>
      rw [outcome] at abandoned
      cases abandoned

/-- A reading that was not abandoned has a record. -/
theorem exists_of_complete {reading : ParseTree} (complete : reading.rejection? = none)
    (findings : Findings) :
    ∃ statement, (reading.effect policy findings).1 = .ok statement := by
  have same := reading.effect_untyped policy findings
  unfold rejection? at complete
  rw [← same] at complete
  cases outcome : (reading.effect policy findings).1 with
  | error other =>
      rw [outcome] at complete
      cases complete
  | ok statement => exact ⟨statement, rfl⟩

@[simp] theorem rejection?_ifThen (keyword : Token) (condition : List Token)
    (consequence : ParseTree) :
    (ifThen keyword condition consequence).rejection? = consequence.rejection? := by
  unfold rejection?
  rw [outline]
  cases consequence.outline <;> rfl

@[simp] theorem rejection?_ifThenElse (keyword : Token) (condition : List Token)
    (consequence alternative : ParseTree) :
    (ifThenElse keyword condition consequence alternative).rejection? =
      consequence.rejection?.or alternative.rejection? := by
  unfold rejection?
  rw [outline]
  cases consequence.outline with
  | error _ => rfl
  | ok _ => cases alternative.outline <;> rfl

theorem syntactic_settle (policy : RedeclarationPolicy) (reading : ParseTree)
    (findings : Findings) :
    (settle (reading.effect policy findings)).syntactic =
      (reading.effect policy findings).2.syntactic ++
        reading.rejection?.toList.map Rejection.diagnostic := by
  cases abandoned : reading.rejection? with
  | none =>
      obtain ⟨statement, same⟩ := exists_of_complete policy abandoned findings
      rw [settle, same]
      exact (List.append_nil _).symm
  | some rejection =>
      rw [settle, effect_of_rejection policy abandoned findings]
      exact Findings.syntactic_rejection _ _

mutual
/-- The diagnostics about grammar that a reading leaves are those of its rejections. -/
theorem effect_syntactic : ∀ (reading : ParseTree) (findings : Findings),
    (reading.effect policy findings).2.syntactic =
      findings.syntactic ++ reading.recorded.map Rejection.diagnostic
  | .declaration _ _ _ _ _, findings => by
      simp only [effect, declarationEffect, recorded]
      split <;> simp
  | .read _ _, findings => by simp [effect, recorded]
  | .write _ _, findings => by simp [effect, recorded]
  | .ifThen _ _ consequence, findings => by
      simp [effect, recorded, effect_syntactic consequence]
  | .ifThenElse _ _ consequence alternative, findings => by
      simp [effect, recorded, effect_syntactic consequence, effect_syntactic alternative]
  | .loop _ _ body, findings => by
      simp [effect, recorded, effect_syntactic body]
  | .block opening items none, findings => by
      simp [effect, recorded, close, effectAll_syntactic items]
  | .block opening items (some found), findings => by
      simp [effect, recorded, close, effectAll_syntactic items]
  | .expression tokens _, findings => by
      simp only [effect, expressionEffect, recorded]
      split <;> simp
  | .rejected _, _ => by simp [effect, recorded]

theorem effectAll_syntactic : ∀ (readings : List ParseTree) (findings : Findings),
    (effectAll policy readings findings).2.syntactic =
      findings.syntactic ++ (recordedAll readings).map Rejection.diagnostic
  | [], _ => by simp [effectAll, recordedAll]
  | reading :: others, findings => by
      simp only [effectAll, recordedAll]
      rw [effectAll_syntactic others, syntactic_settle, effect_syntactic reading]
      simp
end

/-! ## Readings behind readings -/

theorem recordedAll_append (trees others : List ParseTree) :
    recordedAll (trees ++ others) = recordedAll trees ++ recordedAll others := by
  induction trees with
  | nil => rfl
  | cons tree trees ih => simp only [List.cons_append, recordedAll, ih, List.append_assoc]

theorem effectAll_append (trees others : List ParseTree) (findings : Findings) :
    effectAll policy (trees ++ others) findings =
      ((effectAll policy trees findings).1 ++
          (effectAll policy others (effectAll policy trees findings).2).1,
        (effectAll policy others (effectAll policy trees findings).2).2) := by
  induction trees generalizing findings with
  | nil => rfl
  | cons tree trees ih => simp only [List.cons_append, effectAll, ih, List.append_assoc]

end ParseTree

end NumericLanguage
