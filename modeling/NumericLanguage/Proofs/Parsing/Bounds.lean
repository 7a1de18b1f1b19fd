import NumericLanguage.Proofs.Parsing.Course
import NumericLanguage.Proofs.Reading.Program
import NumericLanguage.Proofs.Scoping.Balance

/-!
# Bounds on nesting

The limit on open statements is tested in one rule. It bounds what other rules do with their own
resources: each open statement enters at most one scope, and adds at most two levels to the tree of
its record, of which a loop takes both. So during a whole run at most as many statements and scopes
are open as the limit allows (`Parse.Stays.program`), and no record is higher than twice the limit
and one (`height_le_of_program`).

The invariant (`Parse.Stays`) is said of the moments of a run, also inside statements that are
abandoned or skipped: at each of them at least as much is open as where the run began, and at most
some levels more; at the end it is as much as at the beginning. In particular the count of open
statements is never lowered below the one it was raised from.
-/

set_option autoImplicit false

namespace NumericLanguage

/-- A declaration is added to the innermost scope, and none is entered or left. -/
theorem ScopeTable.depth_of_declare {table after : ScopeTable} {name : String} {type : ValueType}
    {line : Int} {location : Location} {value : Option Literal} {declaration : Declaration}
    (declared : table.declare name type line location value = .ok (declaration, after)) :
    after.depth = table.depth := by
  unfold declare at declared
  split at declared
  · cases declared
  · cases declared
    rfl

/-! ## States above another one -/

namespace ParseState

/-- At least as many statements and scopes are open as in another state, and at most some more. -/
structure Above (levels scopes : Nat) (state moment : ParseState) : Prop where
  nesting_ge : state.nesting ≤ moment.nesting
  nesting_le : moment.nesting ≤ state.nesting + levels
  depth_ge : state.table.depth ≤ moment.table.depth
  depth_le : moment.table.depth ≤ state.table.depth + scopes

namespace Above

variable {levels scopes more others : Nat} {state middle moment : ParseState}

/-- As much is open in both states. -/
theorem of_eq (nesting : moment.nesting = state.nesting)
    (depth : moment.table.depth = state.table.depth) : Above levels scopes state moment :=
  ⟨by omega, by omega, by omega, by omega⟩

theorem refl (state : ParseState) : Above levels scopes state state := .of_eq rfl rfl

theorem mono (above : Above levels scopes state moment) (higher : levels ≤ more)
    (deeper : scopes ≤ others) : Above more others state moment :=
  ⟨above.nesting_ge, by have := above.nesting_le; omega, above.depth_ge,
    by have := above.depth_le; omega⟩

theorem nesting_eq (above : Above 0 scopes state moment) : moment.nesting = state.nesting :=
  Nat.le_antisymm above.nesting_le above.nesting_ge

theorem depth_eq (above : Above levels 0 state moment) :
    moment.table.depth = state.table.depth :=
  Nat.le_antisymm above.depth_le above.depth_ge

/-- From a state in which as much is open. -/
theorem behind (above : Above levels scopes middle moment) (same : Above 0 0 state middle) :
    Above levels scopes state moment := by
  obtain ⟨_, _, _, _⟩ := above
  obtain ⟨_, _, _, _⟩ := same
  exact ⟨by omega, by omega, by omega, by omega⟩

/-- From a state in which one statement more is open. -/
theorem raised (above : Above levels scopes middle moment)
    (nesting : middle.nesting = state.nesting + 1)
    (depth : middle.table.depth = state.table.depth) : Above (levels + 1) scopes state moment := by
  obtain ⟨_, _, _, _⟩ := above
  exact ⟨by omega, by omega, by omega, by omega⟩

/-- From a state in which one scope more is open. -/
theorem entered (above : Above levels scopes middle moment)
    (nesting : middle.nesting = state.nesting)
    (depth : middle.table.depth = state.table.depth + 1) :
    Above levels (scopes + 1) state moment := by
  obtain ⟨_, _, _, _⟩ := above
  exact ⟨by omega, by omega, by omega, by omega⟩

end Above

end ParseState

namespace Parse

open ParseState

/-! ## Runs that stay within bounds -/

/-- From a state, a run opens at most some statements and scopes more, and in the end all of them
are closed. -/
def StaysAt {α : Type} {step : Parse α} (state : ParseState) (levels scopes : Nat)
    (course : Course step) : Prop :=
  (∀ moment ∈ course.moments state, Above levels scopes state moment) ∧
    Above 0 0 state (stateBehind step state)

/-- The same from every state with a number of open statements. -/
def Stays {α : Type} {step : Parse α} (base levels scopes : Nat) (course : Course step) : Prop :=
  ∀ state, state.nesting = base → StaysAt state levels scopes course

/-- A single step, from a state to one in which as much is open. -/
theorem StaysAt.of_step {α : Type} {step : Parse α} {course : Course step} {levels scopes : Nat}
    {state : ParseState} (next : ParseState)
    (moments : ∀ moment ∈ course.moments state, moment = state ∨ moment = next)
    (behind : stateBehind step state = next) (same : Above 0 0 state next) :
    StaysAt state levels scopes course := by
  refine ⟨fun moment inside => ?_, behind ▸ same⟩
  rcases moments moment inside with rfl | rfl
  · exact .refl _
  · exact same.mono (Nat.zero_le _) (Nat.zero_le _)

namespace Stays

variable {α β : Type} {base levels scopes more others : Nat}

theorem mono {step : Parse α} {course : Course step} (stays : Stays base levels scopes course)
    (higher : levels ≤ more) (deeper : scopes ≤ others) : Stays base more others course :=
  fun state nested =>
    ⟨fun moment inside => ((stays state nested).1 moment inside).mono higher deeper,
      (stays state nested).2⟩

/-! ### Single steps -/

theorem done (result : α) : Stays base levels scopes (.done result) :=
  fun state _ => .of_step state (by simp [Course.moments]) rfl (.refl state)

theorem look : Stays base levels scopes .look :=
  fun state _ => .of_step state (by simp [Course.moments]) rfl (.refl state)

theorem fail (failure : Failure) :
    Stays base levels scopes (.fail failure : Course (throw failure : Parse α)) :=
  fun state _ => .of_step state (by simp [Course.moments]) rfl (.refl state)

/-- A change of other parts of the state. -/
theorem change {next : ParseState → ParseState}
    {silent : ∀ state, (next state).diagnostics = state.diagnostics}
    (nesting : ∀ state, (next state).nesting = state.nesting)
    (depth : ∀ state, (next state).table.depth = state.table.depth) :
    Stays base levels scopes (.change silent) :=
  fun state _ =>
    .of_step (next state) (by simp [Course.moments]) rfl (.of_eq (nesting state) (depth state))

theorem log (diagnostic : Diagnostic) : Stays base levels scopes (.log diagnostic) :=
  fun state _ =>
    .of_step { state with diagnostics := state.diagnostics.record diagnostic }
      (by simp [Course.moments]) rfl (.of_eq rfl rfl)

/-! ### Composed steps -/

theorem bind {first : Parse α} {next : α → Parse β} {course : Course first}
    {courses : ∀ result, Course (next result)} (stays : Stays base levels scopes course)
    (staysNext : ∀ result, Stays base levels scopes (courses result)) :
    Stays base levels scopes (.bind course courses) := by
  intro state nested
  obtain ⟨inFront, ends⟩ := stays state nested
  simp only [StaysAt, stateBehind, bind_apply, Course.moments] at ends ⊢
  cases run : first state with
  | error failure final =>
      rw [run] at ends
      rw [List.append_nil]
      exact ⟨inFront, ends⟩
  | ok result middle =>
      rw [run] at ends
      obtain ⟨behind, endsNext⟩ := staysNext result middle (ends.nesting_eq.trans nested)
      refine ⟨fun moment inside => ?_, endsNext.behind ends⟩
      rcases List.mem_append.mp inside with early | late
      · exact inFront moment early
      · exact (behind moment late).behind ends

/-- What is done next may depend on the state. -/
theorem of_look {next : ParseState → Parse β} {courses : ∀ state, Course (next state)}
    (stays : ∀ state, state.nesting = base → StaysAt state levels scopes (courses state)) :
    Stays base levels scopes (.bind .look courses) := by
  intro state nested
  obtain ⟨behind, ends⟩ := stays state nested
  refine ⟨fun moment inside => ?_, ends⟩
  rcases List.mem_append.mp inside with early | late
  · obtain rfl := List.mem_singleton.mp early
    exact .refl _
  · exact behind moment late

theorem ite {condition : Prop} [Decidable condition] {first second : Parse α}
    {course : Course first} {other : Course second} (stays : Stays base levels scopes course)
    (staysOther : Stays base levels scopes other) :
    Stays base levels scopes
      (.ite course other : Course (if condition then first else second)) := by
  intro state nested
  rw [StaysAt, Course.moments]
  split
  · exact stays state nested
  · exact staysOther state nested

theorem tryCatch {step : Parse α} {handle : Failure → Parse α} {course : Course step}
    {courses : ∀ failure, Course (handle failure)} (stays : Stays base levels scopes course)
    (staysBehind : ∀ failure, Stays base levels scopes (courses failure)) :
    Stays base levels scopes (.tryCatch course courses) := by
  intro state nested
  obtain ⟨inFront, ends⟩ := stays state nested
  simp only [StaysAt, stateBehind, tryCatch_apply, Course.moments] at ends ⊢
  cases run : step state with
  | ok result final =>
      rw [run] at ends
      rw [List.append_nil]
      exact ⟨inFront, ends⟩
  | error failure middle =>
      rw [run] at ends
      obtain ⟨behind, endsNext⟩ := staysBehind failure middle (ends.nesting_eq.trans nested)
      refine ⟨fun moment inside => ?_, endsNext.behind ends⟩
      rcases List.mem_append.mp inside with early | late
      · exact inFront moment early
      · exact (behind moment late).behind ends

/-! ### Statements and scopes -/

/-- With one statement more open around it. -/
theorem nested {body : Parse α} {course : Course body}
    (stays : Stays (base + 1) levels scopes course) :
    Stays base (levels + 1) scopes (.nested course) := by
  intro state outside
  let raised : ParseState := { state with nesting := state.nesting + 1 }
  let last : ParseState := stateBehind body raised
  let lowered : ParseState := { last with nesting := last.nesting - 1 }
  have moments : (Course.nested course).moments state =
      [state, raised] ++ (course.moments raised ++ [last, lowered]) := rfl
  have run : stateBehind (Parse.nested body) state = lowered :=
    stateBehind_andAlways body
      (modify fun state : ParseState => { state with nesting := state.nesting - 1 }) raised
  obtain ⟨inside, ends⟩ := stays raised (congrArg (· + 1) outside)
  -- The body ends where it began, one above the outside, so that the subtraction is not cut off.
  have nesting : last.nesting = state.nesting + 1 := ends.nesting_eq
  have closed : Above 0 0 state lowered :=
    .of_eq (by simp only [lowered, nesting]; omega) ends.depth_eq
  have raises {moment : ParseState} (above : Above levels scopes raised moment) :
      Above (levels + 1) scopes state moment :=
    above.raised rfl rfl
  rw [StaysAt, moments, run]
  refine ⟨fun moment member => ?_, closed⟩
  simp only [List.mem_append, List.mem_cons, List.not_mem_nil, or_false] at member
  rcases member with (rfl | rfl) | member | rfl | rfl
  · exact .refl _
  · exact raises (.refl raised)
  · exact raises (inside moment member)
  · exact raises (ends.mono (Nat.zero_le _) (Nat.zero_le _))
  · exact closed.mono (Nat.zero_le _) (Nat.zero_le _)

/-- A scope that is open around is left. -/
theorem leaveScope {state last : ParseState} (nesting : last.nesting = state.nesting)
    (depth : last.table.depth = state.table.depth + 1) :
    (∀ moment ∈ Course.leaveScope.moments last, Above 0 1 state moment) ∧
      Above 0 0 state (stateBehind Parse.leaveScope last) := by
  obtain ⟨stream, count, ⟨current, enclosing, opened⟩, diagnostics, journal⟩ := last
  cases enclosing with
  | nil => cases depth
  | cons outer others =>
      let last : ParseState :=
        ⟨stream, count, ⟨current, outer :: others, opened⟩, diagnostics, journal⟩
      let left : ParseState := ⟨stream, count, ⟨outer, others, opened⟩, diagnostics, journal⟩
      let noted : ParseState := { left with journal := journal ++ [.scopeLeft current.name] }
      have outside : left.table.depth = state.table.depth := Nat.succ.inj depth
      have moments : Course.leaveScope.moments last =
          [last] ++ ([last, left] ++ [left, noted]) := rfl
      have run : stateBehind Parse.leaveScope last = noted := rfl
      rw [moments, run]
      refine ⟨fun moment member => ?_, .of_eq nesting outside⟩
      simp only [List.mem_append, List.mem_cons, List.not_mem_nil, or_false] at member
      have inside : Above 0 1 state last := (Above.refl last).entered nesting depth
      rcases member with rfl | (rfl | rfl) | rfl | rfl
      · exact inside
      · exact inside
      · exact .of_eq nesting outside
      · exact .of_eq nesting outside
      · exact .of_eq nesting outside

/-- In a scope of its own. -/
theorem inScope {body : Parse α} {course : Course body} (stays : Stays base levels scopes course) :
    Stays base levels (scopes + 1) (.inScope course) := by
  intro state outside
  let opened : ParseState := { state with table := state.table.enter }
  let last : ParseState := stateBehind body (entered state)
  have moments : (Course.inScope course).moments state =
      ([state, opened] ++ ([opened] ++ [opened, entered state])) ++
        (course.moments (entered state) ++ Course.leaveScope.moments last) := rfl
  have run : stateBehind (Parse.inScope body) state = stateBehind Parse.leaveScope last :=
    stateBehind_andAlways body Parse.leaveScope (entered state)
  obtain ⟨inside, ends⟩ := stays (entered state) outside
  obtain ⟨leaving, closed⟩ : (∀ moment ∈ Course.leaveScope.moments last, Above 0 1 state moment) ∧
      Above 0 0 state (stateBehind Parse.leaveScope last) :=
    leaveScope ends.nesting_eq ends.depth_eq
  rw [StaysAt, moments, run]
  refine ⟨fun moment member => ?_, closed⟩
  simp only [List.mem_append, List.mem_cons, List.not_mem_nil, or_false] at member
  rcases member with ((rfl | rfl) | rfl | rfl | rfl) | member | member
  · exact .refl _
  · exact (Above.refl _).entered rfl rfl
  · exact (Above.refl _).entered rfl rfl
  · exact (Above.refl _).entered rfl rfl
  · exact (Above.refl _).entered rfl rfl
  · exact (inside moment member).entered rfl rfl
  · exact (leaving moment member).mono (Nat.zero_le _) (by omega)

/-! ### Repetition -/

section Repetition

variable {stops : TokenStream → Bool} {step : Parse (Option α)} {course : Course step}

theorem untilStream (stays : Stays base levels scopes course) (fuel : Nat) :
    Stays base levels scopes (.untilStream course fuel : Course (untilStream stops step fuel)) := by
  induction fuel with
  | zero => exact .done _
  | succ fuel ih =>
      exact .bind .look fun _ => .ite (.done _) <|
        .bind stays fun _ => .bind ih fun _ => .done _

theorem repeatUntil (stays : Stays base levels scopes course) :
    Stays base levels scopes (.repeatUntil course : Course (repeatUntil stops step)) :=
  .bind .look fun _ => .untilStream stays _

end Repetition

/-! ### Reading tokens -/

theorem moveOver (count : Nat) : Stays base levels scopes (.moveOver count) :=
  .change (fun _ => rfl) fun _ => rfl

theorem peek : Stays base levels scopes .peek := .bind .look fun _ => .done _

theorem check (kind : TokenKind) : Stays base levels scopes (.check kind) :=
  .bind .look fun _ => .done _

theorem advance : Stays base levels scopes .advance :=
  .bind (.moveOver 1) fun _ => .bind .look fun _ => .done _

theorem accept (kind : TokenKind) : Stays base levels scopes (.accept kind) :=
  .bind (.check kind) fun _ => .ite (.bind .advance fun _ => .done _) (.done _)

theorem reject (fault : SyntaxFault) :
    Stays base levels scopes (.reject fault : Course (reject fault : Parse α)) :=
  .bind .peek fun _ => .fail _

theorem expect (kind : TokenKind) (context : String) :
    Stays base levels scopes (.expect kind context) :=
  .bind (.check kind) fun _ => .ite (.reject _) (.done _)

theorem consume (kind : TokenKind) (context : String) :
    Stays base levels scopes (.consume kind context) :=
  .bind (.expect kind context) fun _ => .advance

theorem capture : Stays base levels scopes .capture :=
  .bind .look fun _ => .bind (.moveOver _) fun _ => .done _

theorem skipStatement : Stays base levels scopes .skipStatement :=
  .bind .look fun _ => .moveOver _

theorem resume : Stays base levels scopes .resume := .change (fun _ => rfl) fun _ => rfl

theorem recover (start : Nat) : ∀ search, Stays base levels scopes (.recover start search)
  | false => .bind .look fun _ => .ite (.moveOver 1) (.done _)
  | true => .bind .resume fun _ => .bind .look fun _ => .ite (.moveOver 1) (.done _)

/-! ### Recording -/

theorem note (event : Event) : Stays base levels scopes (.note event) :=
  .change (fun _ => rfl) fun _ => rfl

theorem record (diagnostic : Diagnostic) : Stays base levels scopes (.record diagnostic) :=
  .bind (.note _) fun _ => .log _

theorem report (fault : SemanticFault) (token : Token) :
    Stays base levels scopes (.report fault token) :=
  .record _

theorem checkLeadingName : ∀ expression, Stays base levels scopes (.checkLeadingName expression)
  | [] => .done _
  | _ :: _ => .bind .look fun _ => .ite (.report _ _) (.done _)

theorem checkCondition (keyword : Token) (condition : List Token) (type : ValueType) :
    Stays base levels scopes (.checkCondition keyword condition type) :=
  .ite (.report _ _) (.done _)

theorem checkAssignment (target : Token) (type : ValueType) :
    Stays base levels scopes (.checkAssignment target type) := by
  refine .bind .look fun state => ?_
  cases state.table.lookup target.lexeme with
  | none => exact .report _ _
  | some _ => exact .ite (.report _ _) (.done _)

/-! ### Simple statements -/

theorem readStatement : Stays base levels scopes .readStatement :=
  .bind .advance fun _ => .bind (.consume _ _) fun _ => .bind (.consume _ _) fun _ =>
  .bind (.consume _ _) fun _ => .bind (.consume _ _) fun _ => .bind .look fun _ =>
  .ite (.bind (.report _ _) fun _ => .done _) (.done _)

theorem writeStatement : Stays base levels scopes .writeStatement :=
  .bind .advance fun _ => .bind (.consume _ _) fun _ => .bind .capture fun _ =>
  .bind (.consume _ _) fun _ => .bind (.consume _ _) fun _ =>
  .bind (.checkLeadingName _) fun _ => .bind .look fun _ => .done _

theorem expressionStatement : Stays base levels scopes .expressionStatement := by
  refine .bind .peek fun _ => .bind .capture fun expression => .bind (.consume _ _) fun _ => ?_
  cases assignment? expression with
  | some parts => exact .bind .look fun _ => .bind (.checkAssignment _ _) fun _ => .done _
  | none => exact .bind .look fun _ => .done _

/-! ### Declarations -/

theorem typeOf (token : Token) : Stays base levels scopes (.typeOf token) := by
  delta Course.typeOf Parse.typeOf
  cases ValueType.ofWord token.lexeme with
  | ok _ => exact .done _
  | error _ => exact .fail _

theorem initializer : Stays base levels scopes .initializer :=
  .bind (.accept _) fun _ => .ite
    (.bind .capture fun _ => .bind .look fun _ => .done _)
    (.done _)

theorem reportRedeclaration (policy : RedeclarationPolicy) (redeclaration : Redeclaration) :
    Stays base levels scopes (.reportRedeclaration policy redeclaration) :=
  .bind (.note _) fun _ => .ite (.record _) (.done _)

theorem declareName (policy : RedeclarationPolicy) (type : ValueType) (line : Int) (name : Token) :
    Stays base levels scopes (.declareName policy type line name) := by
  refine .of_look fun state nested => ?_
  cases declared : state.table.declare name.lexeme type line name.location none with
  | error redeclaration =>
      have reports : Stays base levels scopes (.bind (.reportRedeclaration policy redeclaration)
          fun _ => .done false) := .bind (.reportRedeclaration _ _) fun _ => .done _
      exact reports state nested
  | ok pair =>
      obtain ⟨declaration, table⟩ := pair
      have depth : table.depth = state.table.depth := ScopeTable.depth_of_declare declared
      let event : Event := .declared declaration.name type declaration.scope
      let noted : ParseState := { state with journal := state.journal ++ [event] }
      let changed : ParseState := { noted with table := table }
      refine ⟨fun moment inside => ?_, .of_eq rfl depth⟩
      have inside : moment ∈ [state, noted] ++ ([noted, changed] ++ [changed]) := inside
      simp only [List.mem_append, List.mem_cons, List.not_mem_nil, or_false] at inside
      rcases inside with (rfl | rfl) | (rfl | rfl) | rfl
      · exact .refl _
      · exact .of_eq rfl rfl
      · exact .of_eq rfl rfl
      · exact .of_eq rfl depth
      · exact .of_eq rfl depth

theorem storeInitialValue (name : Token) (expression : List Token) :
    Stays base levels scopes (.storeInitialValue name expression) := by
  delta Course.storeInitialValue Parse.storeInitialValue
  cases initialValue expression with
  | some _ => exact .change (fun _ => rfl) fun _ => rfl
  | none => exact .done _

theorem variableDeclaration (policy : RedeclarationPolicy) :
    Stays base levels scopes (.variableDeclaration policy) :=
  .bind .advance fun _ => .bind (.typeOf _) fun _ => .bind (.consume _ _) fun _ =>
  .bind (.declareName policy _ _ _) fun _ => .bind .initializer fun _ =>
  .ite
    (.bind (.storeInitialValue _ _) fun _ => .bind (.consume _ _) fun _ => .done _)
    (.bind (.consume _ _) fun _ => .done _)

/-! ### Statements with parts -/

theorem goOn (start : Nat) : ∀ failure, Stays base levels scopes (.goOn start failure)
  | .rejected _ => .bind (.record _) fun _ => .bind (.recover _ _) fun _ => .done _
  | .typeWord _ => .fail _
  | .noOpenBlock _ => .fail _

section Inner

variable {inner : Parse Statement} {course : Course inner} (policy : RedeclarationPolicy)

theorem declarationOrStatement (stays : Stays base levels scopes course) :
    Stays base levels scopes (.declarationOrStatement policy course) :=
  .bind .look fun _ => .tryCatch
    (.bind (.ite (.variableDeclaration policy) stays) fun _ => .done _)
    (.goOn _)

theorem conditionalStatement (stays : Stays base levels scopes course) :
    Stays base levels scopes (.conditionalStatement course) :=
  .bind .advance fun _ => .bind (.consume _ _) fun _ => .bind .capture fun _ =>
  .bind (.consume _ _) fun _ => .bind (.consume _ _) fun _ => .bind .look fun _ =>
  .bind (.checkCondition _ _ _) fun _ => .bind stays fun _ => .bind (.accept _) fun _ =>
  .ite (.bind stays fun _ => .done _) (.done _)

theorem blockBody (stays : Stays base levels scopes course) (opening : Token) :
    Stays base levels scopes (.blockBody policy course opening) :=
  .bind (.repeatUntil (.declarationOrStatement policy stays)) fun _ =>
  .bind (.accept _) fun _ =>
  .ite (.bind .peek fun _ => .bind (.record _) fun _ => .done _) (.done _)

/-- A block enters a scope, in which its items are. -/
theorem blockStatement (stays : Stays base levels scopes course) :
    Stays base levels (scopes + 1) (.blockStatement policy course) :=
  .bind (.consume _ _) fun _ => .bind (.inScope (.blockBody policy stays _)) fun _ => .done _

theorem loopStatement (stays : Stays base levels scopes course) :
    Stays base levels (scopes + 1) (.loopStatement policy course) :=
  .bind .advance fun _ => .bind (.consume _ _) fun _ => .bind .capture fun _ =>
  .bind (.consume _ _) fun _ => .bind (.expect _ _) fun _ =>
  .bind (.blockStatement policy stays) fun _ => .bind .look fun _ => .done _

/-- A statement enters at most one scope around those inside of it. -/
theorem statementBody (stays : Stays base levels scopes course) :
    Stays base levels (scopes + 1) (.statementBody policy course) :=
  .bind (.check _) fun _ => .ite .readStatement <|
  .bind (.check _) fun _ => .ite .writeStatement <|
  .bind (.check _) fun _ =>
    .ite (.conditionalStatement (stays.mono (Nat.le_refl _) (Nat.le_succ _))) <|
  .bind (.check _) fun _ => .ite (.loopStatement policy stays) <|
  .bind (.check _) fun _ => .ite (.blockStatement policy stays) .expressionStatement

end Inner

/-! ### Statements and programs -/

theorem tooDeep : Stays base levels scopes .tooDeep :=
  .bind .peek fun _ => .bind .skipStatement fun _ => .fail _

/-- **A statement with some levels to spare** opens at most as many statements and scopes. -/
theorem statementWithin (policy : RedeclarationPolicy) (levels : Nat) :
    Stays base levels levels (.statementWithin policy levels) := by
  -- A level pays for the statement that is opened and for the scope it may enter.
  induction levels generalizing base with
  | zero => exact .tooDeep
  | succ levels ih => exact .nested (.statementBody policy ih)

/-- The levels that a statement has to spare are those that are not open around it. -/
theorem statement (policy : RedeclarationPolicy) :
    Stays base (maxNesting - base) (maxNesting - base) (.statement policy) := by
  refine .of_look fun state nested => ?_
  rw [nested]
  exact statementWithin policy _ state nested

theorem item (policy : RedeclarationPolicy) :
    Stays base (maxNesting - base) (maxNesting - base) (.item policy) :=
  .declarationOrStatement policy (.statement policy)

/-- **A whole program** opens at most as many statements and scopes as the limit allows. -/
theorem program (policy : RedeclarationPolicy) :
    Stays 0 maxNesting maxNesting (.program policy) := by
  intro state outside
  let rewound : ParseState := { state with stream := state.stream.rewound, nesting := 0 }
  have same : Above 0 0 state rewound := .of_eq outside.symm rfl
  have parses : Stays 0 maxNesting maxNesting
      (.bind (.repeatUntil (.item policy)) fun statements =>
        .bind (.note (.parsed statements.length)) fun _ => .done statements :
        Course (do
          let statements ← Parse.repeatUntil TokenStream.atEnd (Parse.item policy)
          Parse.note (.parsed statements.length)
          return statements)) :=
    .bind (.repeatUntil (.item policy)) fun _ => .bind (.note _) fun _ => .done _
  obtain ⟨inside, ends⟩ := parses rewound rfl
  refine ⟨fun moment member => ?_, ends.behind same⟩
  rcases List.mem_append.mp member with early | late
  · have early : moment ∈ [state, rewound] := early
    simp only [List.mem_cons, List.not_mem_nil, or_false] at early
    rcases early with rfl | rfl
    · exact .refl _
    · exact same.mono (Nat.zero_le _) (Nat.zero_le _)
  · exact (inside moment late).behind same

end Stays

end Parse

/-! ## The height of records -/

section Outcomes

variable {ε α β : Type} {outcome : Except ε α} {result : β}

theorem exists_of_map_eq_ok {change : α → β} (same : outcome.map change = .ok result) :
    ∃ inner, outcome = .ok inner ∧ change inner = result := by
  cases outcome with
  | error _ => cases same
  | ok inner => exact ⟨inner, rfl, Except.ok.inj same⟩

theorem exists_of_bind_eq_ok {next : α → Except ε β} (same : outcome.bind next = .ok result) :
    ∃ inner, outcome = .ok inner ∧ next inner = .ok result := by
  cases outcome with
  | error _ => cases same
  | ok inner => exact ⟨inner, rfl, same⟩

end Outcomes

namespace Statement

mutual
/-- The number of records on the longest way down the tree of a record. -/
def height : Statement → Nat
  | ⟨_, _, _, _, _, children⟩ => heightAll children + 1

/-- The greatest height among some records. -/
def heightAll : List Statement → Nat
  | [] => 0
  | first :: others => max first.height (heightAll others)
end

theorem height_le_heightAll {statement : Statement} {statements : List Statement}
    (inside : statement ∈ statements) : statement.height ≤ heightAll statements := by
  induction statements with
  | nil => cases inside
  | cons first others ih =>
      rw [heightAll]
      rcases List.mem_cons.mp inside with rfl | behind
      · exact Nat.le_max_left _ _
      · exact Nat.le_trans (ih behind) (Nat.le_max_right _ _)

theorem heightAll_append (first second : List Statement) :
    heightAll (first ++ second) = max (heightAll first) (heightAll second) := by
  induction first with
  | nil => exact (Nat.zero_max _).symm
  | cons statement others ih => rw [List.cons_append, heightAll, ih, heightAll, Nat.max_assoc]

mutual
/-- Types add nothing to the height. -/
theorem height_untyped : ∀ statement : Statement, statement.untyped.height = statement.height
  | ⟨_, _, _, _, _, children⟩ => by
      rw [untyped, height, height, heightAll_untypedAll children]

theorem heightAll_untypedAll : ∀ statements : List Statement,
    heightAll (untypedAll statements) = heightAll statements
  | [] => rfl
  | first :: others => by
      rw [untypedAll, heightAll, heightAll, height_untyped first, heightAll_untypedAll others]
end

end Statement

namespace ParseTree

mutual
/-- The height of the record of a reading, if it has one. -/
def height : ParseTree → Nat
  | declaration .. | read .. | write .. | expression .. => 1
  | ifThen _ _ consequence => consequence.height + 1
  | ifThenElse _ _ consequence alternative => max consequence.height alternative.height + 1
  | loop _ _ body => body.height + 1
  | block _ items _ => heightAll items + 1
  | rejected _ => 0

/-- The greatest height among some readings. -/
def heightAll : List ParseTree → Nat
  | [] => 0
  | reading :: others => max reading.height (heightAll others)
end

mutual
/-- The record of a reading has at most its height. -/
theorem height_outline_le : ∀ (reading : ParseTree) {statement : Statement},
    reading.outline = .ok statement → statement.height ≤ reading.height
  | declaration _ _ _ _ none, _, rfl => Nat.le_refl 1
  | declaration _ _ _ _ (some _), _, same => nomatch same
  | read .., _, rfl => Nat.le_refl 1
  | write .., _, rfl => Nat.le_refl 1
  | ifThen _ _ consequence, _, same => by
      obtain ⟨inside, first, rfl⟩ := exists_of_map_eq_ok same
      exact Nat.succ_le_succ (Nat.max_le.mpr ⟨consequence.height_outline_le first, Nat.zero_le _⟩)
  | ifThenElse _ _ consequence alternative, _, same => by
      obtain ⟨inside, first, same⟩ := exists_of_bind_eq_ok same
      obtain ⟨other, second, rfl⟩ := exists_of_map_eq_ok same
      have bound := consequence.height_outline_le first
      have boundToo := alternative.height_outline_le second
      simp only [Heading.toStatement, Statement.height, Statement.heightAll, height]
      omega
  | loop _ _ body, _, same => by
      obtain ⟨inside, inner, rfl⟩ := exists_of_map_eq_ok same
      exact Nat.succ_le_succ (Nat.max_le.mpr ⟨body.height_outline_le inner, Nat.zero_le _⟩)
  | block _ items _, _, rfl => Nat.succ_le_succ (heightAll_outlineAll_le items)
  | expression .., _, rfl => Nat.le_refl 1
  | rejected _, _, same => nomatch same

theorem heightAll_outlineAll_le : ∀ readings : List ParseTree,
    Statement.heightAll (outlineAll readings) ≤ heightAll readings
  | [] => Nat.le_refl 0
  | reading :: others => by
      have behind := heightAll_outlineAll_le others
      rw [outlineAll, heightAll, Statement.heightAll_append]
      cases first : reading.outline with
      | error _ => exact Nat.max_le.mpr ⟨Nat.zero_le _, Nat.le_trans behind (Nat.le_max_right _ _)⟩
      | ok statement =>
          have bound := reading.height_outline_le first
          simp only [Except.toOption, Option.toList, Statement.heightAll]
          omega
end

end ParseTree

mutual
/-- **A statement with some levels to spare** has at most twice their height, and one for a
declaration. -/
theorem Reads.height_le : ∀ {levels : Nat} {stream final : TokenStream} {reading : ParseTree},
    Reads levels stream reading final → reading.height ≤ 2 * levels + 1
  | _, _, _, _, .tooDeep => Nat.zero_le _
  | _, _, _, _, .read .. => Nat.le_add_left _ _
  | _, _, _, _, .write .. => Nat.le_add_left _ _
  | _, _, _, _, .ifThen _ _ _ _ _ consequence _ => by
      have inside := consequence.height_le
      rw [ParseTree.height]
      omega
  | _, _, _, _, .ifThenElse _ _ _ _ _ consequence _ _ alternative => by
      have first := consequence.height_le
      have second := alternative.height_le
      rw [ParseTree.height]
      omega
  | _, _, _, _, .loop _ _ _ _ block => by
      have inside := block.height_le
      rw [ParseTree.height]
      omega
  | _, _, _, _, .block block => by
      have inside := block.height_le
      omega
  | _, _, _, _, .expression .. => Nat.le_add_left _ _
  | _, _, _, _, .keywordFails .. => Nat.zero_le _
  | _, _, _, _, .expressionFails .. => Nat.zero_le _

theorem ReadsBlock.height_le : ∀ {levels : Nat} {stream final : TokenStream}
    {reading : ParseTree}, ReadsBlock levels stream reading final →
    reading.height ≤ 2 * levels + 2
  | _, _, _, _, .closed _ items _ => Nat.succ_le_succ items.height_le
  | _, _, _, _, .unclosed _ items => Nat.succ_le_succ items.height_le

theorem ReadsItem.height_le : ∀ {levels : Nat} {stream final : TokenStream} {reading : ParseTree},
    ReadsItem levels stream reading final → reading.height ≤ 2 * levels + 1
  | _, _, _, _, .declaration .. => Nat.le_add_left _ _
  | _, _, _, _, .initialized .. => Nat.le_add_left _ _
  | _, _, _, _, .nameless .. => Nat.zero_le _
  | _, _, _, _, .unended .. => Nat.le_add_left _ _
  | _, _, _, _, .unendedInitial .. => Nat.le_add_left _ _
  | _, _, _, _, .statement _ statement => statement.height_le

theorem ReadsItems.height_le : ∀ {stops : TokenStream → Bool} {levels : Nat}
    {stream final : TokenStream} {readings : List ParseTree},
    ReadsItems stops levels stream readings final → ParseTree.heightAll readings ≤ 2 * levels + 1
  | _, _, _, _, _, .done _ => Nat.zero_le _
  | _, _, _, _, _, .next _ item others => Nat.max_le.mpr ⟨item.height_le, others.height_le⟩
end

/-- No record of a program is higher than twice the limit and one. -/
theorem height_le_of_program {policy : RedeclarationPolicy} {stream : TokenStream} {nesting : Nat}
    {findings : Findings} {statements : List Statement} {final : ParseState}
    (run : Parse.program policy (ParseState.place stream nesting findings) = .ok statements final)
    {statement : Statement} (inside : statement ∈ statements) :
    statement.height ≤ 2 * maxNesting + 1 := by
  obtain ⟨readings, last, reads⟩ := exists_reads_of_program run
  cases run.symm.trans (program_of_reads reads policy nesting findings)
  calc statement.height
      ≤ Statement.heightAll (ParseTree.effectAll policy readings findings).1 :=
        Statement.height_le_heightAll inside
    _ = Statement.heightAll (ParseTree.outlineAll readings) := by
        rw [← Statement.heightAll_untypedAll, ParseTree.effectAll_untyped]
    _ ≤ ParseTree.heightAll readings := ParseTree.heightAll_outlineAll_le readings
    _ ≤ 2 * maxNesting + 1 := ReadsItems.height_le reads

end NumericLanguage
