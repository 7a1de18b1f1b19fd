import NumericLanguage.Proofs.Scoping.Frame

/-!
# The course of a run

A rule is put together from single steps: it looks at the state, changes it in one go, ends, or
fails. How it is put together (`Parse.Course`) says which states a run passes through
(`Course.moments`), also inside the rules it uses and after failures that are caught.

The log is only changed by recording one more diagnostic behind the others. So it grows from each
moment of a run to the next (`Course.grows`): nothing that was recorded is ever removed or moved.
-/

set_option autoImplicit false

namespace NumericLanguage

/-! ## Growing logs -/

namespace DiagnosticLog

/-- What a log is at some moments, from the first to the last: it is only ever continued. -/
structure Grows (first : DiagnosticLog) (logs : List DiagnosticLog) (last : DiagnosticLog) :
    Prop where
  begins : logs.head? = some first
  ends : logs.getLast? = some last
  sorted : logs.Pairwise fun earlier later => earlier <+: later

namespace Grows

variable {first middle last log : DiagnosticLog} {logs others : List DiagnosticLog}

theorem behind (grows : Grows first logs last) (inside : log ∈ logs) : first <+: log := by
  obtain ⟨later, rfl⟩ := List.head?_eq_some_iff.mp grows.begins
  rcases List.mem_cons.mp inside with rfl | member
  · exact List.prefix_rfl
  · exact List.rel_of_pairwise_cons grows.sorted member

/-- At every moment the log is a beginning of what it is in the end. -/
theorem inFront (grows : Grows first logs last) (inside : log ∈ logs) : log <+: last := by
  obtain ⟨earlier, rfl⟩ := List.getLast?_eq_some_iff.mp grows.ends
  rcases List.mem_append.mp inside with member | member
  · exact (List.pairwise_append.mp grows.sorted).2.2 log member last (List.mem_singleton_self _)
  · obtain rfl := List.mem_singleton.mp member
    exact List.prefix_rfl

theorem stay (log : DiagnosticLog) : Grows log [log] log :=
  ⟨rfl, rfl, List.pairwise_singleton _ _⟩

theorem cons (continued : first <+: middle) (late : Grows middle logs last) :
    Grows first (first :: logs) last where
  begins := rfl
  ends := by rw [List.getLast?_cons, late.ends, Option.getD_some]
  sorted := List.Pairwise.cons (fun _ inside => continued.trans (late.behind inside)) late.sorted

theorem one (continued : first <+: last) : Grows first [first, last] last :=
  .cons continued (.stay last)

theorem append (early : Grows first logs middle) (late : Grows middle others last) :
    Grows first (logs ++ others) last where
  begins := by rw [List.head?_append, early.begins, Option.some_or]
  ends := by rw [List.getLast?_append, late.ends, Option.some_or]
  sorted := List.pairwise_append.mpr ⟨early.sorted, late.sorted, fun _ member _ also =>
    (early.inFront member).trans (late.behind also)⟩

end Grows

end DiagnosticLog

namespace Parse

variable {α β : Type}

/-- What is done in any case is done where the step in front of it ends. -/
theorem stateBehind_andAlways (body : Parse α) (ending : Parse Unit) (state : ParseState) :
    stateBehind (andAlways body ending) state = stateBehind ending (stateBehind body state) := by
  unfold stateBehind andAlways
  rcases body state with ⟨_, middle⟩ | ⟨_, middle⟩
  · cases run : ending middle <;> simp only [run]
  · cases run : ending middle <;> simp only [run]

/-! ## How a rule is put together -/

/-- How a step is put together from single ones. A single step leaves the log alone, or records one
diagnostic. -/
inductive Course : {α : Type} → Parse α → Type 1
  | done {α : Type} (result : α) : Course (pure result)
  | look : Course (get : Parse ParseState)
  | fail {α : Type} (failure : Failure) : Course (throw failure : Parse α)
  | change {next : ParseState → ParseState}
      (silent : ∀ state, (next state).diagnostics = state.diagnostics) :
      Course (modify next : Parse Unit)
  | log (diagnostic : Diagnostic) :
      Course (modify fun state =>
        { state with diagnostics := state.diagnostics.record diagnostic } : Parse Unit)
  | bind {α β : Type} {first : Parse α} {next : α → Parse β} :
      Course first → (∀ result, Course (next result)) → Course (first >>= next)
  | ite {α : Type} {condition : Prop} [Decidable condition] {first second : Parse α} :
      Course first → Course second → Course (if condition then first else second)
  | tryCatch {α : Type} {step : Parse α} {handle : Failure → Parse α} :
      Course step → (∀ failure, Course (handle failure)) → Course (tryCatch step handle)
  | andAlways {α : Type} {body : Parse α} {ending : Parse Unit} :
      Course body → Course ending → Course (andAlways body ending)

namespace Course

/-- The states that a run passes through, one after the other, from the one where it begins to the
one where it ends. -/
def moments : {α : Type} → {step : Parse α} → Course step → ParseState → List ParseState
  | _, _, .done _, state => [state]
  | _, _, .look, state => [state]
  | _, _, .fail _, state => [state]
  | _, _, @change next _, state => [state, next state]
  | _, _, .log diagnostic, state =>
      [state, { state with diagnostics := state.diagnostics.record diagnostic }]
  | _, _, @bind _ _ first _ course others, state =>
      course.moments state ++
        match first state with
        | .ok result middle => (others result).moments middle
        | .error _ _ => []
  | _, _, @ite _ condition _ _ _ first second, state =>
      if condition then first.moments state else second.moments state
  | _, _, @tryCatch _ step _ course handles, state =>
      course.moments state ++
        match step state with
        | .ok _ _ => []
        | .error failure middle => (handles failure).moments middle
  | _, _, @andAlways _ body _ course ending, state =>
      course.moments state ++ ending.moments (stateBehind body state)

/-! ## The log grows -/

/-- **The log grows from moment to moment** of a run, from what it is at the beginning to what it is
at the end. -/
theorem grows {step : Parse α} (course : Course step) (state : ParseState) :
    DiagnosticLog.Grows state.diagnostics ((course.moments state).map ParseState.diagnostics)
      (stateBehind step state).diagnostics := by
  induction course generalizing state with
  | done _ => exact .stay _
  | look => exact .stay _
  | fail _ => exact .stay _
  | change silent => exact .one ⟨[], by rw [List.append_nil, silent state]⟩
  | log diagnostic => exact .one (DiagnosticLog.prefix_record _ _)
  | @bind _ _ first next _ _ early late =>
      have begins := early state
      simp only [moments, stateBehind, bind_apply, List.map_append] at begins ⊢
      cases run : first state with
      | ok result middle =>
          rw [run] at begins
          exact begins.append (late result middle)
      | error failure final =>
          rw [run] at begins
          rwa [List.map_nil, List.append_nil]
  | @ite _ condition _ _ _ _ _ early late =>
      simp only [moments]
      split
      · exact early state
      · exact late state
  | @tryCatch _ step handle _ _ early late =>
      have begins := early state
      simp only [moments, stateBehind, tryCatch_apply, List.map_append] at begins ⊢
      cases run : step state with
      | ok result final =>
          rw [run] at begins
          rwa [List.map_nil, List.append_nil]
      | error failure middle =>
          rw [run] at begins
          exact begins.append (late failure middle)
  | @andAlways _ body ending _ _ early late =>
      rw [moments, stateBehind_andAlways, List.map_append]
      exact (early state).append (late (stateBehind body state))

/-! ## Reading tokens -/

def moveOver (count : Nat) : Course (moveOver count) := .change fun _ => rfl

def peek : Course peek := .bind .look fun _ => .done _

def check (kind : TokenKind) : Course (check kind) := .bind .look fun _ => .done _

def advance : Course advance := .bind (.moveOver 1) fun _ => .bind .look fun _ => .done _

def accept (kind : TokenKind) : Course (accept kind) :=
  .bind (.check kind) fun _ => .ite (.bind .advance fun _ => .done _) (.done _)

def reject (fault : SyntaxFault) : Course (reject fault : Parse α) :=
  .bind .peek fun _ => .fail _

def expect (kind : TokenKind) (context : String) : Course (expect kind context) :=
  .bind (.check kind) fun _ => .ite (.reject _) (.done _)

def consume (kind : TokenKind) (context : String) : Course (consume kind context) :=
  .bind (.expect kind context) fun _ => .advance

def capture : Course capture :=
  .bind .look fun _ => .bind (.moveOver _) fun _ => .done _

def skipStatement : Course skipStatement := .bind .look fun _ => .moveOver _

def resume : Course resume := .change fun _ => rfl

def recover (start : Nat) : (search : Bool) → Course (recover start search)
  | false => .bind .look fun _ => .ite (.moveOver 1) (.done _)
  | true => .bind .resume fun _ => .bind .look fun _ => .ite (.moveOver 1) (.done _)

/-! ## Recording -/

def note (event : Event) : Course (note event) := .change fun _ => rfl

def record (diagnostic : Diagnostic) : Course (record diagnostic) :=
  .bind (.note _) fun _ => .log diagnostic

def report (fault : SemanticFault) (token : Token) : Course (report fault token) := .record _

def checkLeadingName : (expression : List Token) → Course (checkLeadingName expression)
  | [] => .done _
  | _ :: _ => .bind .look fun _ => .ite (.report _ _) (.done _)

def checkCondition (keyword : Token) (condition : List Token) (type : ValueType) :
    Course (checkCondition keyword condition type) :=
  .ite (.report _ _) (.done _)

def checkAssignment (target : Token) (type : ValueType) : Course (checkAssignment target type) :=
  .bind .look fun state =>
    match state.table.lookup target.lexeme with
    | none => .report _ _
    | some _ => .ite (.report _ _) (.done _)

/-! ## Scopes, nesting and repetition -/

def enterScope : Course enterScope :=
  .bind (.change fun _ => rfl) fun _ => .bind .look fun _ => .note _

def leaveScope : Course leaveScope :=
  .bind .look fun state =>
    match state.table.leave with
    | .ok _ => .bind (.change fun _ => rfl) fun _ => .note _
    | .error _ => .fail _

section Around

variable {body : Parse α}

def inScope (course : Course body) : Course (inScope body) :=
  .bind .enterScope fun _ => .andAlways course .leaveScope

def nested (course : Course body) : Course (nested body) :=
  .bind (.change fun _ => rfl) fun _ => .andAlways course (.change fun _ => rfl)

variable {stops : TokenStream → Bool} {step : Parse (Option α)}

def untilStream (course : Course step) : (fuel : Nat) → Course (untilStream stops step fuel)
  | 0 => .done _
  | fuel + 1 =>
      .bind .look fun _ => .ite (.done _) <|
        .bind course fun _ => .bind (untilStream course fuel) fun _ => .done _

def repeatUntil (course : Course step) : Course (repeatUntil stops step) :=
  .bind .look fun _ => .untilStream course _

end Around

/-! ## Simple statements -/

def readStatement : Course readStatement :=
  .bind .advance fun _ => .bind (.consume _ _) fun _ => .bind (.consume _ _) fun _ =>
  .bind (.consume _ _) fun _ => .bind (.consume _ _) fun _ => .bind .look fun _ =>
  .ite (.bind (.report _ _) fun _ => .done _) (.done _)

def writeStatement : Course writeStatement :=
  .bind .advance fun _ => .bind (.consume _ _) fun _ => .bind .capture fun _ =>
  .bind (.consume _ _) fun _ => .bind (.consume _ _) fun _ =>
  .bind (.checkLeadingName _) fun _ => .bind .look fun _ => .done _

def expressionStatement : Course expressionStatement :=
  .bind .peek fun _ => .bind .capture fun expression => .bind (.consume _ _) fun _ =>
  match assignment? expression with
  | some (_, _) => .bind .look fun _ => .bind (.checkAssignment _ _) fun _ => .done _
  | none => .bind .look fun _ => .done _

/-! ## Declarations -/

def typeOf (token : Token) : Course (typeOf token) := by
  delta Parse.typeOf
  exact
    match ValueType.ofWord token.lexeme with
    | .ok _ => .done _
    | .error _ => .fail _

def initializer : Course initializer :=
  .bind (.accept _) fun _ => .ite
    (.bind .capture fun _ => .bind .look fun _ => .done _)
    (.done _)

def reportRedeclaration (policy : RedeclarationPolicy) (redeclaration : Redeclaration) :
    Course (reportRedeclaration policy redeclaration) :=
  .bind (.note _) fun _ => .ite (.record _) (.done _)

def declareName (policy : RedeclarationPolicy) (type : ValueType) (line : Int) (name : Token) :
    Course (declareName policy type line name) :=
  .bind .look fun state =>
    match state.table.declare name.lexeme type line name.location none with
    | .ok (_, _) => .bind (.note _) fun _ => .bind (.change fun _ => rfl) fun _ => .done _
    | .error redeclaration =>
        .bind (.reportRedeclaration policy redeclaration) fun _ => .done _

def storeInitialValue (name : Token) (expression : List Token) :
    Course (storeInitialValue name expression) := by
  delta Parse.storeInitialValue
  exact
    match initialValue expression with
    | some _ => .change fun _ => rfl
    | none => .done _

def variableDeclaration (policy : RedeclarationPolicy) : Course (variableDeclaration policy) :=
  .bind .advance fun _ => .bind (.typeOf _) fun _ => .bind (.consume _ _) fun _ =>
  .bind (.declareName policy _ _ _) fun _ => .bind .initializer fun _ =>
  .ite
    (.bind (.storeInitialValue _ _) fun _ => .bind (.consume _ _) fun _ => .done _)
    (.bind (.consume _ _) fun _ => .done _)

/-! ## Statements with parts -/

def goOn (start : Nat) : (failure : Failure) → Course (goOn start failure)
  | .rejected _ => .bind (.record _) fun _ => .bind (.recover _ _) fun _ => .done _
  | .typeWord _ => .fail _
  | .noOpenBlock _ => .fail _

section Inner

variable {inner : Parse Statement} (policy : RedeclarationPolicy)

def declarationOrStatement (course : Course inner) :
    Course (declarationOrStatement policy inner) :=
  .bind .look fun _ => .tryCatch
    (.bind (.ite (.variableDeclaration policy) course) fun _ => .done _)
    (.goOn _)

def conditionalStatement (course : Course inner) : Course (conditionalStatement inner) :=
  .bind .advance fun _ => .bind (.consume _ _) fun _ => .bind .capture fun _ =>
  .bind (.consume _ _) fun _ => .bind (.consume _ _) fun _ => .bind .look fun _ =>
  .bind (.checkCondition _ _ _) fun _ => .bind course fun _ => .bind (.accept _) fun _ =>
  .ite (.bind course fun _ => .done _) (.done _)

def blockBody (course : Course inner) (opening : Token) :
    Course (blockBody policy inner opening) :=
  .bind (.repeatUntil (.declarationOrStatement policy course)) fun _ =>
  .bind (.accept _) fun _ =>
  .ite (.bind .peek fun _ => .bind (.record _) fun _ => .done _) (.done _)

def blockStatement (course : Course inner) : Course (blockStatement policy inner) :=
  .bind (.consume _ _) fun _ =>
  .bind (.inScope (.blockBody policy course _)) fun _ => .done _

def loopStatement (course : Course inner) : Course (loopStatement policy inner) :=
  .bind .advance fun _ => .bind (.consume _ _) fun _ => .bind .capture fun _ =>
  .bind (.consume _ _) fun _ => .bind (.expect _ _) fun _ =>
  .bind (.blockStatement policy course) fun _ => .bind .look fun _ => .done _

def statementBody (course : Course inner) : Course (statementBody policy inner) :=
  .bind (.check _) fun _ => .ite .readStatement <|
  .bind (.check _) fun _ => .ite .writeStatement <|
  .bind (.check _) fun _ => .ite (.conditionalStatement course) <|
  .bind (.check _) fun _ => .ite (.loopStatement policy course) <|
  .bind (.check _) fun _ => .ite (.blockStatement policy course) .expressionStatement

end Inner

/-! ## Statements and programs -/

def tooDeep : Course tooDeep := .bind .peek fun _ => .bind .skipStatement fun _ => .fail _

def statementWithin (policy : RedeclarationPolicy) :
    (levels : Nat) → Course (statementWithin policy levels)
  | 0 => .tooDeep
  | levels + 1 => .nested (.statementBody policy (statementWithin policy levels))

def statement (policy : RedeclarationPolicy) : Course (statement policy) :=
  .bind .look fun _ => .statementWithin policy _

def item (policy : RedeclarationPolicy) : Course (item policy) :=
  .declarationOrStatement policy (.statement policy)

def program (policy : RedeclarationPolicy) : Course (program policy) :=
  .bind (.change fun _ => rfl) fun _ =>
  .bind (.repeatUntil (.item policy)) fun _ => .bind (.note _) fun _ => .done _

end Course

end Parse

end NumericLanguage
