import NumericLanguage.Proofs.Layout.Pairing
import NumericLanguage.Proofs.Outcome

/-!
# Steps that agree

Two runs over paired tokens are followed side by side. Two states correspond to each other if they
stand at the same place, with as many statements open, and if their tables and their logs correspond
(`Pairing.States`); the journals may differ, since they mention places. Two steps agree
(`Pairing.Agree`) if from such states both have related results or both fail alike, in states that
correspond again.

Steps that agree may be put together: in sequence, around each other, and in a loop. With that, each
step of parsing agrees with itself.
-/

set_option autoImplicit false

namespace NumericLanguage.Pairing

open Parse

/-! ## States and failures that correspond -/

section Relations

variable (pairing : Pairing)

/-- The same fault, but for the place of a block. -/
inductive Faults : SyntaxFault → SyntaxFault → Prop
  | expected (kind : TokenKind) (context : String) :
      Faults (.expected kind context) (.expected kind context)
  | unclosedBlock {opening other : Location} :
      pairing.Places opening other → Faults (.unclosedBlock opening) (.unclosedBlock other)
  | tooDeep (limit : Int) : Faults (.tooDeep limit) (.tooDeep limit)

/-- The same fault, noticed at paired tokens. -/
structure Rejections (first second : Rejection) : Prop where
  fault : pairing.Faults first.fault second.fault
  found : pairing.Pairs first.found second.found

/-- Failures for the same reason. -/
inductive Failures : Failure → Failure → Prop
  | rejected {rejection other : Rejection} :
      pairing.Rejections rejection other → Failures (.rejected rejection) (.rejected other)
  | typeWord (fault : TypeWordFault) : Failures (.typeWord fault) (.typeWord fault)
  | noOpenBlock (fault : NoOpenBlock) : Failures (.noOpenBlock fault) (.noOpenBlock fault)

/-- States that correspond to each other in everything but their journals. -/
structure States (first second : ParseState) : Prop where
  stream : pairing.Streams first.stream second.stream
  nesting : first.nesting = second.nesting
  table : pairing.Tables first.table second.table
  diagnostics : List.Forall₂ pairing.Diagnostics first.diagnostics second.diagnostics

/-- Related results, or failures for the same reason, in states that correspond to each other. -/
inductive Outcomes {α β : Type} (related : α → β → Prop) :
    EStateM.Result Failure ParseState α → EStateM.Result Failure ParseState β → Prop
  | ok {result : α} {other : β} {final last : ParseState} :
      related result other → pairing.States final last →
      Outcomes related (.ok result final) (.ok other last)
  | error {failure other : Failure} {final last : ParseState} :
      pairing.Failures failure other → pairing.States final last →
      Outcomes related (.error failure final) (.error other last)

/-- From states that correspond to each other, two steps have outcomes that do. -/
def Agree {α β : Type} (related : α → β → Prop) (step : Parse α) (other : Parse β) : Prop :=
  ∀ first second, pairing.States first second →
    pairing.Outcomes related (step first) (other second)

end Relations

variable {pairing : Pairing}

namespace Faults

variable {first second : SyntaxFault}

theorem code (faults : pairing.Faults first second) : first.code = second.code := by
  cases faults <;> rfl

theorem needsRecovery (faults : pairing.Faults first second) :
    first.needsRecovery = second.needsRecovery := by
  cases faults <;> rfl

end Faults

theorem Rejections.diagnostic {first second : Rejection}
    (rejections : pairing.Rejections first second) :
    pairing.Diagnostics first.diagnostic second.diagnostic where
  code := congrArg some rejections.fault.code
  severity := rfl
  category := rfl
  place := places rejections.found

/-! ## Putting steps together -/

namespace Agree

variable {α β γ δ : Type} {related : α → β → Prop} {results : γ → δ → Prop}
  {step : Parse α} {other : Parse β}

theorem pure {result : α} {counterpart : β} (values : related result counterpart) :
    pairing.Agree related (pure result) (pure counterpart) :=
  fun _ _ states => .ok values states

theorem get : pairing.Agree pairing.States get get :=
  fun _ _ states => .ok states states

theorem modify {change changeToo : ParseState → ParseState}
    (kept : ∀ {first second}, pairing.States first second →
      pairing.States (change first) (changeToo second)) :
    pairing.Agree Eq (modify change : Parse Unit) (modify changeToo) :=
  fun _ _ states => .ok rfl (kept states)

theorem throw {failure counterpart : Failure} (failures : pairing.Failures failure counterpart) :
    pairing.Agree related (throw failure) (throw counterpart) :=
  fun _ _ states => .error failures states

/-- Steps that agree with each other may be followed by steps that do. -/
theorem bind {next : α → Parse γ} {following : β → Parse δ}
    (agree : pairing.Agree related step other)
    (others : ∀ result counterpart, related result counterpart →
      pairing.Agree results (next result) (following counterpart)) :
    pairing.Agree results (step >>= next) (other >>= following) := by
  intro first second states
  have outcomes := agree first second states
  rw [bind_apply, bind_apply]
  generalize step first = outcome, other second = outcomeToo at outcomes ⊢
  cases outcomes with
  | ok values states => exact others _ _ values _ _ states
  | error failures states => exact .error failures states

/-- Behind steps with equal results one needs to look at one result only. -/
theorem bind_eq {step other : Parse α} {next : α → Parse γ} {following : α → Parse δ}
    (agree : pairing.Agree Eq step other)
    (others : ∀ result, pairing.Agree results (next result) (following result)) :
    pairing.Agree results (step >>= next) (other >>= following) :=
  agree.bind fun result _ same => same ▸ others result

theorem ite {condition : Prop} [Decidable condition] {alternative : Parse α}
    {alternativeToo : Parse β} (agree : pairing.Agree related step other)
    (otherwise : pairing.Agree related alternative alternativeToo) :
    pairing.Agree related (if condition then step else alternative)
      (if condition then other else alternativeToo) := by
  split
  · exact agree
  · exact otherwise

/-- Failures for the same reason are handled alike. -/
theorem tryCatch {handle : Failure → Parse α} {treat : Failure → Parse β}
    (agree : pairing.Agree related step other)
    (handled : ∀ failure counterpart, pairing.Failures failure counterpart →
      pairing.Agree related (handle failure) (treat counterpart)) :
    pairing.Agree related (tryCatch step handle) (tryCatch other treat) := by
  intro first second states
  have outcomes := agree first second states
  rw [tryCatch_apply, tryCatch_apply]
  generalize step first = outcome, other second = outcomeToo at outcomes ⊢
  cases outcomes with
  | ok values states => exact .ok values states
  | error failures states => exact handled _ _ failures _ _ states

/-- What is done in any case is done behind a result and behind a failure. -/
theorem andAlways {ending endingToo : Parse Unit} (agree : pairing.Agree related step other)
    (closes : pairing.Agree Eq ending endingToo) :
    pairing.Agree related (andAlways step ending) (andAlways other endingToo) := by
  intro first second states
  have outcomes := agree first second states
  rw [Parse.andAlways, Parse.andAlways]
  generalize step first = outcome, other second = outcomeToo at outcomes ⊢
  cases outcomes with
  | @ok _ _ final last values states =>
      have closed := closes final last states
      dsimp only
      generalize ending final = outcome, endingToo last = outcomeToo at closed ⊢
      cases closed with
      | ok _ states => exact .ok values states
      | error failures states => exact .error failures states
  | @error _ _ final last failures states =>
      have closed := closes final last states
      dsimp only
      generalize ending final = outcome, endingToo last = outcomeToo at closed ⊢
      cases closed with
      | ok _ states => exact .error failures states
      | error failures states => exact .error failures states

/-- A loop goes on or ends on both sides, and collects related results. -/
theorem untilStream {stops : TokenStream → Bool} {step : Parse (Option α)}
    {other : Parse (Option β)}
    (same : ∀ {stream streamToo}, pairing.Streams stream streamToo →
      stops stream = stops streamToo)
    (agree : pairing.Agree (Option.Rel related) step other) (fuel : Nat) :
    pairing.Agree (List.Forall₂ related) (untilStream stops step fuel)
      (untilStream stops other fuel) := by
  induction fuel with
  | zero => exact .pure .nil
  | succ fuel ih =>
      apply get.bind
      intro state stateToo states
      rw [same states.stream]
      refine ite (.pure .nil) ?_
      apply agree.bind
      intro found counterpart values
      refine ih.bind fun rest restToo lists => .pure ?_
      cases values with
      | none => exact lists
      | some values => exact .cons values lists

theorem repeatUntil {stops : TokenStream → Bool} {step : Parse (Option α)}
    {other : Parse (Option β)}
    (same : ∀ {stream streamToo}, pairing.Streams stream streamToo →
      stops stream = stops streamToo)
    (agree : pairing.Agree (Option.Rel related) step other) :
    pairing.Agree (List.Forall₂ related) (repeatUntil stops step) (repeatUntil stops other) := by
  apply get.bind
  intro state stateToo states
  rw [states.stream.rest.length_eq]
  exact untilStream same agree _

end Agree

/-! ## Reading tokens -/

theorem agree_peek : pairing.Agree pairing.Pairs peek peek :=
  Agree.get.bind fun _ _ states => .pure states.stream.peek

theorem agree_check (kind : TokenKind) : pairing.Agree Eq (check kind) (check kind) :=
  Agree.get.bind fun _ _ states => .pure (states.stream.startsWith kind)

theorem agree_moveOver (count : Nat) : pairing.Agree Eq (moveOver count) (moveOver count) :=
  .modify fun states => { states with stream := states.stream.moveOver count }

theorem agree_advance : pairing.Agree pairing.Pairs advance advance :=
  (agree_moveOver 1).bind_eq fun _ => Agree.get.bind fun _ _ states => .pure states.stream.previous

theorem agree_accept (kind : TokenKind) : pairing.Agree Eq (accept kind) (accept kind) := by
  refine (agree_check kind).bind_eq fun found => Agree.ite ?_ (.pure rfl)
  exact agree_advance.bind fun _ _ _ => .pure rfl

theorem agree_reject {α β : Type} {related : α → β → Prop} (kind : TokenKind) (context : String) :
    pairing.Agree related (reject (.expected kind context)) (reject (.expected kind context)) :=
  agree_peek.bind fun _ _ found => .throw (.rejected ⟨.expected kind context, found⟩)

theorem agree_expect (kind : TokenKind) (context : String) :
    pairing.Agree Eq (expect kind context) (expect kind context) :=
  (agree_check kind).bind_eq fun _ => .ite (agree_reject kind context) (.pure rfl)

theorem agree_consume (kind : TokenKind) (context : String) :
    pairing.Agree pairing.Pairs (consume kind context) (consume kind context) :=
  (agree_expect kind context).bind_eq fun _ => agree_advance

theorem agree_capture : pairing.Agree pairing.Runs capture capture := by
  apply Agree.get.bind
  intro state stateToo states
  have runs := captured states.stream.rest 0
  dsimp only
  rw [runs.length_eq]
  exact (agree_moveOver _).bind_eq fun _ => .pure runs

theorem agree_skipStatement : pairing.Agree Eq skipStatement skipStatement := by
  apply Agree.get.bind
  intro state stateToo states
  rw [(skipped states.stream.rest 0).length_eq]
  exact agree_moveOver _

theorem agree_resume : pairing.Agree Eq resume resume :=
  .modify fun states => { states with stream := states.stream.resumed }

theorem agree_recover (start : Nat) (search : Bool) :
    pairing.Agree Eq (recover start search) (recover start search) := by
  have moves : pairing.Agree Eq (do if (← get).stream.position = start then moveOver 1)
      (do if (← get).stream.position = start then moveOver 1) := by
    apply Agree.get.bind
    intro state stateToo states
    rw [states.stream.position]
    exact .ite (agree_moveOver 1) (.pure rfl)
  cases search with
  | false => exact moves
  | true => exact agree_resume.bind_eq fun _ => moves

/-! ## Recording -/

/-- What is written into the journal does not matter. -/
theorem agree_note (event other : Event) : pairing.Agree Eq (note event) (note other) :=
  .modify fun states => { states with }

theorem agree_record {diagnostic other : Diagnostic}
    (diagnostics : pairing.Diagnostics diagnostic other) :
    pairing.Agree Eq (record diagnostic) (record other) := by
  refine (agree_note _ _).bind_eq fun _ => .modify fun states => ?_
  exact { states with diagnostics := List.rel_append states.diagnostics (.cons diagnostics .nil) }

/-- The same rule is broken at paired tokens. -/
theorem agree_report (fault : SemanticFault) {token other : Token}
    (pairs : pairing.Pairs token other) :
    pairing.Agree Eq (report fault token) (report fault other) :=
  agree_record ⟨rfl, rfl, rfl, places pairs⟩

/-! ## Scopes and nesting -/

theorem agree_enterScope : pairing.Agree Eq enterScope enterScope := by
  refine Agree.bind_eq (.modify fun states => ?_) fun _ => ?_
  · exact { states with table := states.table.enter }
  · exact Agree.get.bind fun _ _ _ => agree_note _ _

theorem agree_leaveScope : pairing.Agree Eq leaveScope leaveScope := by
  apply Agree.get.bind
  intro state stateToo states
  have enclosing := states.table.enclosing
  have opened := states.table.opened
  rw [ScopeTable.leave, ScopeTable.leave]
  generalize state.table.enclosing = outside, stateToo.table.enclosing = outsideToo at enclosing ⊢
  cases enclosing with
  | nil => exact .throw (.noOpenBlock _)
  | cons outer others =>
      refine Agree.bind_eq (.modify fun states => ?_) fun _ => agree_note _ _
      exact { states with table := ⟨outer, others, opened⟩ }

section Around

variable {α β : Type} {related : α → β → Prop} {body : Parse α} {other : Parse β}

theorem agree_inScope (agree : pairing.Agree related body other) :
    pairing.Agree related (inScope body) (inScope other) :=
  agree_enterScope.bind_eq fun _ => agree.andAlways agree_leaveScope

theorem agree_nested (agree : pairing.Agree related body other) :
    pairing.Agree related (nested body) (nested other) := by
  have counts (change : Nat → Nat) :
      pairing.Agree Eq (modify fun state => { state with nesting := change state.nesting })
        (modify fun state => { state with nesting := change state.nesting }) :=
    .modify fun states => { states with nesting := congrArg change states.nesting }
  exact (counts (· + 1)).bind_eq fun _ => agree.andAlways (counts (· - 1))

end Around

end NumericLanguage.Pairing
