import NumericLanguage.Proofs.Reading.Relation

/-!
# What a rule leaves as it was

A rule opens scopes and counts open statements in the middle of other rules, each of which may
fail. However it ends, a statement leaves the open scopes and the number of open statements as they
were (`ParseState.Framed`), and a declaration or a statement adds at most one declaration to the
innermost scope, behind those that stand there (`ParseState.Gains`). A step keeps such a relation if
the state where it ends, with a result or with a failure, stands in it to the state where it began
(`Parse.Keeps`).
-/

set_option autoImplicit false

namespace NumericLanguage

/-! ## Frames -/

namespace ParseState

/-- The same scopes are open with the same declarations, and the same number of statements; only
the place has moved on, and blocks may have been entered and left. -/
structure Framed (before after : ParseState) : Prop where
  moves : before.stream.Moves after.stream
  nesting : after.nesting = before.nesting
  stack : after.table.stack = before.table.stack
  opened : before.table.opened ≤ after.table.opened

/-- Declarations of new names have been added behind those of the innermost scope, and nothing else
has changed in the open scopes. -/
structure Gains (added : List Declaration) (before after : ParseState) : Prop where
  moves : before.stream.Moves after.stream
  nesting : after.nesting = before.nesting
  enclosing : after.table.enclosing = before.table.enclosing
  current : after.table.current =
    { before.table.current with declarations := before.table.current.declarations ++ added }
  /-- No name was declared before. -/
  fresh : ∀ declaration ∈ added, before.table.current.find? declaration.name = none
  /-- No name is declared twice. -/
  distinct : (added.map Declaration.name).Nodup
  opened : before.table.opened ≤ after.table.opened

variable {before middle after : ParseState} {added more : List Declaration}

namespace Framed

theorem refl (state : ParseState) : state.Framed state :=
  ⟨.refl _, rfl, rfl, Nat.le_refl _⟩

theorem trans (first : before.Framed middle) (second : middle.Framed after) :
    before.Framed after where
  moves := first.moves.trans second.moves
  nesting := second.nesting.trans first.nesting
  stack := second.stack.trans first.stack
  opened := Nat.le_trans first.opened second.opened

theorem current (framed : before.Framed after) : after.table.current = before.table.current :=
  (List.cons.inj framed.stack).1

theorem enclosing (framed : before.Framed after) :
    after.table.enclosing = before.table.enclosing :=
  (List.cons.inj framed.stack).2

end Framed

namespace Gains

/-- Where nothing is added, the frame is kept. -/
theorem of_framed (framed : before.Framed after) : Gains [] before after where
  moves := framed.moves
  nesting := framed.nesting
  enclosing := framed.enclosing
  current := by rw [framed.current, List.append_nil]
  fresh := nofun
  distinct := List.nodup_nil
  opened := framed.opened

/-- A name that is added behind others is free of those and of the ones before them. -/
theorem fresh_behind (first : Gains added before middle) (second : Gains more middle after)
    {declaration : Declaration} (inside : declaration ∈ more) :
    before.table.current.find? declaration.name = none ∧
      ∀ other ∈ added, other.name ≠ declaration.name := by
  have free := second.fresh declaration inside
  rw [first.current, Scope.find?_eq_none_iff] at free
  constructor
  · rw [Scope.find?_eq_none_iff]
    exact fun other member => free other (List.mem_append_left _ member)
  · exact fun other member => free other (List.mem_append_right _ member)

/-- What is added twice is added in that order. -/
theorem trans (first : Gains added before middle) (second : Gains more middle after) :
    Gains (added ++ more) before after where
  moves := first.moves.trans second.moves
  nesting := second.nesting.trans first.nesting
  enclosing := second.enclosing.trans first.enclosing
  current := by rw [second.current, first.current, List.append_assoc]
  fresh := by
    intro declaration inside
    rcases List.mem_append.mp inside with inFront | behind
    · exact first.fresh declaration inFront
    · exact (first.fresh_behind second behind).1
  distinct := by
    rw [List.map_append, List.nodup_append]
    refine ⟨first.distinct, second.distinct, ?_⟩
    intro name inFront other behind
    obtain ⟨declaration, member, rfl⟩ := List.mem_map.mp inFront
    obtain ⟨further, memberToo, rfl⟩ := List.mem_map.mp behind
    exact (first.fresh_behind second memberToo).2 declaration member
  opened := Nat.le_trans first.opened second.opened

theorem trans_framed (first : Gains added before middle) (second : middle.Framed after) :
    Gains added before after := by
  simpa using first.trans (.of_framed second)

end Gains

/-- One declaration of a name has been added. -/
def GainsNamed (name : String) (before after : ParseState) : Prop :=
  ∃ declaration, declaration.name = name ∧ Gains [declaration] before after

/-- A declaration of a free name is added behind those that stand there. -/
theorem Gains.of_add {declaration : Declaration}
    (free : before.table.current.find? declaration.name = none)
    (moves : before.stream.Moves after.stream) (nesting : after.nesting = before.nesting)
    (enclosing : after.table.enclosing = before.table.enclosing)
    (current : after.table.current = before.table.current.add declaration)
    (opened : before.table.opened ≤ after.table.opened) : Gains [declaration] before after where
  moves := moves
  nesting := nesting
  enclosing := enclosing
  current := current
  fresh := by
    intro other inside
    obtain rfl := List.mem_singleton.mp inside
    exact free
  distinct := by simp
  opened := opened

/-- At most one declaration has been added. -/
def GainsOne (before after : ParseState) : Prop :=
  ∃ added, added.length ≤ 1 ∧ Gains added before after

/-- Some declarations have been added. -/
def GainsSome (before after : ParseState) : Prop :=
  ∃ added, Gains added before after

theorem GainsOne.of_named {name : String} (gains : before.GainsNamed name after) :
    before.GainsOne after := by
  obtain ⟨declaration, -, gains⟩ := gains
  exact ⟨[declaration], Nat.le_refl 1, gains⟩

theorem GainsNamed.trans_framed {name : String} (gains : before.GainsNamed name middle)
    (framed : middle.Framed after) : before.GainsNamed name after := by
  obtain ⟨declaration, named, gains⟩ := gains
  exact ⟨declaration, named, gains.trans_framed framed⟩

theorem GainsOne.of_framed (framed : before.Framed after) : before.GainsOne after :=
  ⟨[], Nat.zero_le 1, .of_framed framed⟩

theorem GainsOne.trans_framed (first : before.GainsOne middle) (second : middle.Framed after) :
    before.GainsOne after := by
  obtain ⟨added, single, gains⟩ := first
  exact ⟨added, single, gains.trans_framed second⟩

theorem GainsOne.framed_trans (first : before.Framed middle) (second : middle.GainsOne after) :
    before.GainsOne after := by
  obtain ⟨added, single, gains⟩ := second
  exact ⟨added, single, (Gains.of_framed first).trans gains⟩

theorem GainsSome.of_framed (framed : before.Framed after) : before.GainsSome after :=
  ⟨[], .of_framed framed⟩

theorem GainsSome.of_one (gains : before.GainsOne after) : before.GainsSome after := by
  obtain ⟨added, -, gains⟩ := gains
  exact ⟨added, gains⟩

theorem GainsSome.trans (first : before.GainsSome middle) (second : middle.GainsSome after) :
    before.GainsSome after := by
  obtain ⟨added, gains⟩ := first
  obtain ⟨more, gainsMore⟩ := second
  exact ⟨added ++ more, gains.trans gainsMore⟩

end ParseState

/-! ## Keeping a relation -/

namespace Parse

open ParseState

variable {α β : Type} {R S T : ParseState → ParseState → Prop}

/-- The state in which a step ends, with a result or with a failure. -/
def stateBehind (step : Parse α) (state : ParseState) : ParseState :=
  match step state with
  | .ok _ final => final
  | .error _ final => final

/-- A step that has a result has it in the state behind it. -/
theorem ok_of_run' {step : Parse α} {state : ParseState} {result : α}
    (run : step.run' state = some result) : step state = .ok result (stateBehind step state) := by
  delta EStateM.run' EStateM.run at run
  rw [stateBehind]
  cases outcome : step state with
  | ok other final =>
      rw [outcome] at run
      rw [Option.some.inj run]
  | error failure final =>
      rw [outcome] at run
      cases run

/-- A run ends in a state with a property, and not because a block is left that was not entered. -/
def EndsIn (Q : ParseState → Prop) : EStateM.Result Failure ParseState α → Prop
  | .ok _ final => Q final
  | .error failure final => Q final ∧ ∀ fault, failure ≠ .noOpenBlock fault

/-- A step ends in a state that stands in a relation to the one where it began. -/
def Keeps (R : ParseState → ParseState → Prop) (step : Parse α) : Prop :=
  ∀ state, EndsIn (R state) (step state)

theorem EndsIn.mono {P Q : ParseState → Prop} {result : EStateM.Result Failure ParseState α}
    (ends : EndsIn P result) (weaker : ∀ final, P final → Q final) : EndsIn Q result := by
  cases result with
  | ok _ final => exact weaker final ends
  | error failure final => exact ⟨weaker final ends.1, ends.2⟩

/-- The state behind a run is the one in which it ends. -/
theorem EndsIn.stateBehind {Q : ParseState → Prop} {step : Parse α} {state : ParseState}
    (ends : EndsIn Q (step state)) : Q (stateBehind step state) := by
  unfold Parse.stateBehind
  cases run : step state with
  | ok _ final =>
      rw [run] at ends
      exact ends
  | error _ final =>
      rw [run] at ends
      exact ends.1

/-- What comes next decides on the end of a sequence whose first step succeeds. -/
theorem EndsIn.bind {P Q : ParseState → Prop} {first : Parse α} {next : α → Parse β}
    {state : ParseState} (ends : EndsIn P (first state)) (early : ∀ final, P final → Q final)
    (later : ∀ result middle, P middle → EndsIn Q (next result middle)) :
    EndsIn Q ((first >>= next) state) := by
  rw [bind_apply]
  cases run : first state with
  | ok result middle =>
      rw [run] at ends
      exact later result middle ends
  | error failure final =>
      rw [run] at ends
      exact ⟨early final ends.1, ends.2⟩

namespace Keeps

variable {step : Parse α} {next : α → Parse β}

theorem behind (keeps : Keeps R step) (state : ParseState) : R state (stateBehind step state) :=
  (keeps state).stateBehind

theorem mono (keeps : Keeps R step) (weaker : ∀ before after, R before after → S before after) :
    Keeps S step :=
  fun state => (keeps state).mono (weaker state)

/-- Two steps in sequence keep what both of them make up. -/
theorem bind (first : Keeps R step) (others : ∀ result, Keeps S (next result))
    (early : ∀ {before after}, R before after → T before after)
    (both : ∀ {before middle after}, R before middle → S middle after → T before after) :
    Keeps T (step >>= next) := by
  intro state
  apply (first state).bind (fun _ => early)
  intro result middle kept
  exact (others result middle).mono fun _ => both kept

theorem ite {condition : Prop} [Decidable condition] {other : Parse α} (first : Keeps R step)
    (second : Keeps R other) : Keeps R (if condition then step else other) := by
  split
  · exact first
  · exact second

/-- A failure is caught by a step that keeps the frame. -/
theorem tryCatch {handle : Failure → Parse α} (keeps : Keeps R step)
    (handles : ∀ failure, (∀ fault, failure ≠ .noOpenBlock fault) → Keeps Framed (handle failure))
    (absorbs : ∀ {before middle after}, R before middle → middle.Framed after → R before after) :
    Keeps R (tryCatch step handle) := by
  intro state
  rw [tryCatch_apply]
  have ends := keeps state
  cases run : step state with
  | ok result final =>
      rw [run] at ends
      exact ends
  | error failure final =>
      rw [run] at ends
      exact (handles failure ends.2 final).mono fun _ => absorbs ends.1

end Keeps

/-! ## Steps that keep the frame -/

/-- A step leaves the open scopes and the number of open statements as they were. -/
abbrev Frames (step : Parse α) : Prop := Keeps Framed step

namespace Frames

variable {step : Parse α} {next : α → Parse β}

theorem bind (first : Frames step) (others : ∀ result, Frames (next result)) :
    Frames (step >>= next) :=
  Keeps.bind first others id Framed.trans

theorem pure (result : α) : Frames (pure result : Parse α) :=
  fun state => Framed.refl state

theorem get : Frames (get : Parse ParseState) :=
  fun state => Framed.refl state

theorem modify {change : ParseState → ParseState} (framed : ∀ state, Framed state (change state)) :
    Frames (modify change : Parse Unit) :=
  framed

theorem throw {failure : Failure} (other : ∀ fault, failure ≠ .noOpenBlock fault) :
    Frames (throw failure : Parse α) :=
  fun state => ⟨Framed.refl state, other⟩

end Frames

/-! ### Reading tokens -/

theorem frames_moveOver (count : Nat) : Frames (moveOver count) :=
  .modify fun state => ⟨.moveOver state.stream count, rfl, rfl, Nat.le_refl _⟩

theorem frames_peek : Frames peek := Frames.get.bind fun _ => .pure _

theorem frames_check (kind : TokenKind) : Frames (check kind) := Frames.get.bind fun _ => .pure _

theorem frames_advance : Frames advance :=
  (frames_moveOver 1).bind fun _ => Frames.get.bind fun _ => .pure _

theorem frames_accept (kind : TokenKind) : Frames (accept kind) := by
  refine (frames_check kind).bind fun found => Keeps.ite ?_ (Frames.pure _)
  exact frames_advance.bind fun _ => .pure _

theorem frames_reject (fault : SyntaxFault) : Frames (reject fault : Parse α) :=
  frames_peek.bind fun _ => .throw nofun

theorem frames_expect (kind : TokenKind) (context : String) : Frames (expect kind context) :=
  (frames_check kind).bind fun _ => Keeps.ite (frames_reject _) (Frames.pure _)

theorem frames_consume (kind : TokenKind) (context : String) : Frames (consume kind context) :=
  (frames_expect kind context).bind fun _ => frames_advance

theorem frames_capture : Frames capture :=
  Frames.get.bind fun _ => (frames_moveOver _).bind fun _ => .pure _

theorem frames_skipStatement : Frames skipStatement :=
  Frames.get.bind fun _ => frames_moveOver _

theorem frames_resume : Frames resume :=
  .modify fun state => ⟨.moveOver state.stream _, rfl, rfl, Nat.le_refl _⟩

theorem frames_recover (start : Nat) (search : Bool) : Frames (recover start search) := by
  have moves : Frames (do if (← get).stream.position = start then moveOver 1) :=
    Frames.get.bind fun _ => Keeps.ite (frames_moveOver 1) (Frames.pure _)
  cases search with
  | false => exact moves
  | true => exact frames_resume.bind fun _ => moves

/-! ### Recording -/

theorem frames_note (event : Event) : Frames (note event) :=
  .modify fun _ => ⟨.refl _, rfl, rfl, Nat.le_refl _⟩

theorem frames_record (diagnostic : Diagnostic) : Frames (record diagnostic) :=
  (frames_note _).bind fun _ => .modify fun _ => ⟨.refl _, rfl, rfl, Nat.le_refl _⟩

theorem frames_report (fault : SemanticFault) (token : Token) : Frames (report fault token) :=
  frames_record _

theorem frames_checkLeadingName (expression : List Token) :
    Frames (checkLeadingName expression) := by
  cases expression with
  | nil => exact .pure _
  | cons first others =>
      exact Frames.get.bind fun _ => Keeps.ite (frames_report _ _) (Frames.pure _)

theorem frames_checkCondition (keyword : Token) (condition : List Token) (type : ValueType) :
    Frames (checkCondition keyword condition type) :=
  Keeps.ite (frames_report _ _) (Frames.pure _)

theorem frames_checkAssignment (target : Token) (type : ValueType) :
    Frames (checkAssignment target type) := by
  refine Frames.get.bind fun state => ?_
  split
  · exact frames_report _ _
  · exact Keeps.ite (frames_report _ _) (Frames.pure _)

end Parse

end NumericLanguage
