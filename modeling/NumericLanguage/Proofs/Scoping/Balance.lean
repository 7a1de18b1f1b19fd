import NumericLanguage.Proofs.Scoping.Frame

/-!
# Scopes and nesting are balanced

Every rule keeps the frame as long as the statements inside of it do, and so the rule for statements
does, by induction on the levels that are left (`frames_statementWithin`). A block is left on every
way on which it can end, with all that was declared in it. Only a declaration outside of blocks adds
to the scope in which it stands, and a whole program adds to the innermost scope one declaration
after the other (`scopes_and_nesting_balanced`).
-/

set_option autoImplicit false

namespace NumericLanguage

namespace Parse

open ParseState

variable {α β : Type}

/-! ## Steps around other steps -/

/-- What is done in any case is done behind a result and behind a failure. -/
theorem EndsIn.andAlways {P Q : ParseState → Prop} {body : Parse α} {ending : Parse Unit}
    {state : ParseState} (ends : EndsIn P (body state))
    (closes : ∀ final, P final → ∃ after, ending final = .ok () after ∧ Q after) :
    EndsIn Q (andAlways body ending state) := by
  unfold Parse.andAlways
  cases run : body state with
  | ok result final =>
      rw [run] at ends
      obtain ⟨after, closed, kept⟩ := closes final ends
      simp only [closed]
      exact kept
  | error failure final =>
      rw [run] at ends
      obtain ⟨after, closed, kept⟩ := closes final ends.1
      simp only [closed]
      exact ⟨kept, ends.2⟩

/-- Counting an open statement for the time of a step keeps the frame. -/
theorem frames_nested {body : Parse α} (frames : Frames body) : Frames (nested body) := by
  intro state
  have run : nested body state =
      andAlways body (modify fun state => { state with nesting := state.nesting - 1 })
        { state with nesting := state.nesting + 1 } := rfl
  rw [run]
  apply (frames { state with nesting := state.nesting + 1 }).andAlways
  intro final framed
  refine ⟨_, rfl, framed.moves, ?_, framed.stack, framed.opened⟩
  exact congrArg (· - 1) framed.nesting

/-- The state inside a block that was just entered. -/
def entered (state : ParseState) : ParseState :=
  { state with
    table := state.table.enter
    journal := state.journal ++ [.scopeEntered state.table.enter.current.name] }

/-- Leaving a block takes away all that was declared in it. -/
theorem leaveScope_of_gainsSome {state final : ParseState}
    (gains : (entered state).GainsSome final) :
    ∃ after, leaveScope final = .ok () after ∧ state.Framed after := by
  obtain ⟨added, gains⟩ := gains
  have left : final.table.leave = .ok (final.table.current,
      ⟨state.table.current, state.table.enclosing, final.table.opened⟩) := by
    rw [ScopeTable.leave, gains.enclosing]
    rfl
  refine ⟨{ final with
    table := ⟨state.table.current, state.table.enclosing, final.table.opened⟩
    journal := final.journal ++ [.scopeLeft final.table.current.name] }, ?_, ?_⟩
  · rw [leaveScope, bind_of_ok (get_apply final), left]
    rfl
  · exact ⟨gains.moves, gains.nesting, rfl, Nat.le_of_succ_le gains.opened⟩

/-- A step inside a new scope keeps the frame, whatever it declares there. -/
theorem frames_inScope {body : Parse α} (keeps : Keeps GainsSome body) :
    Frames (inScope body) := by
  intro state
  have run : inScope body state = andAlways body leaveScope (entered state) := rfl
  rw [run]
  exact (keeps (entered state)).andAlways fun _ => leaveScope_of_gainsSome

/-! ## Repetition -/

/-- A step that keeps the frame may come before one that adds declarations. -/
theorem Frames.bind_one {first : Parse α} {next : α → Parse β} (frames : Frames first)
    (others : ∀ result, Keeps GainsOne (next result)) : Keeps GainsOne (first >>= next) :=
  Keeps.bind frames others .of_framed .framed_trans

theorem Frames.bind_some {first : Parse α} {next : α → Parse β} (frames : Frames first)
    (others : ∀ result, Keeps GainsSome (next result)) : Keeps GainsSome (first >>= next) :=
  Keeps.bind frames others .of_framed fun framed gains => (GainsSome.of_framed framed).trans gains

/-- Repeating a step that adds at most one declaration adds one after the other. -/
theorem keeps_untilStream {stops : TokenStream → Bool} {step : Parse (Option α)}
    (keeps : Keeps GainsOne step) (fuel : Nat) :
    Keeps GainsSome (untilStream stops step fuel) := by
  have done (results : List α) : Keeps GainsSome (pure results : Parse (List α)) :=
    (Frames.pure results).mono fun _ _ => .of_framed
  induction fuel with
  | zero => exact done []
  | succ fuel ih =>
      refine Frames.get.bind_some fun state => Keeps.ite (done []) ?_
      refine Keeps.bind keeps (fun first => ?_) .of_one fun one others =>
        (GainsSome.of_one one).trans others
      exact Keeps.bind ih (fun others => done _) id .trans

theorem keeps_repeatUntil {stops : TokenStream → Bool} {step : Parse (Option α)}
    (keeps : Keeps GainsOne step) : Keeps GainsSome (repeatUntil stops step) :=
  Frames.get.bind_some fun _ => keeps_untilStream keeps _

/-! ## Simple statements -/

theorem frames_readStatement : Frames readStatement := by
  refine frames_advance.bind fun keyword => ?_
  refine (frames_consume _ _).bind fun opening => ?_
  refine (frames_consume _ _).bind fun name => ?_
  refine (frames_consume _ _).bind fun closing => ?_
  refine (frames_consume _ _).bind fun semicolon => ?_
  refine Frames.get.bind fun state => ?_
  exact Keeps.ite ((frames_report _ _).bind fun _ => .pure _) (Frames.pure _)

theorem frames_writeStatement : Frames writeStatement := by
  refine frames_advance.bind fun keyword => ?_
  refine (frames_consume _ _).bind fun opening => ?_
  refine frames_capture.bind fun expression => ?_
  refine (frames_consume _ _).bind fun closing => ?_
  refine (frames_consume _ _).bind fun semicolon => ?_
  refine (frames_checkLeadingName expression).bind fun _ => ?_
  exact Frames.get.bind fun _ => .pure _

theorem frames_expressionStatement : Frames expressionStatement := by
  refine frames_peek.bind fun first => ?_
  refine frames_capture.bind fun expression => ?_
  refine (frames_consume _ _).bind fun semicolon => ?_
  cases assignment? expression with
  | some parts =>
      refine Frames.get.bind fun state => ?_
      exact (frames_checkAssignment _ _).bind fun _ => .pure _
  | none => exact Frames.get.bind fun _ => .pure _

/-! ## Declarations -/

theorem frames_typeOf (token : Token) : Frames (typeOf token) := by
  unfold typeOf
  split
  · exact .pure _
  · exact .throw nofun

theorem frames_initializer : Frames initializer := by
  refine (frames_accept _).bind fun found => Keeps.ite ?_ (Frames.pure _)
  exact frames_capture.bind fun _ => Frames.get.bind fun _ => .pure _

theorem exists_reportRedeclaration (policy : RedeclarationPolicy)
    (redeclaration : Redeclaration) (state : ParseState) :
    ∃ final, reportRedeclaration policy redeclaration state = .ok () final ∧
      state.Framed final := by
  unfold reportRedeclaration
  cases policy.reported with
  | true => exact ⟨_, rfl, .refl _, rfl, rfl, Nat.le_refl _⟩
  | false => exact ⟨_, rfl, .refl _, rfl, rfl, Nat.le_refl _⟩

/-- A name is declared, or it was declared before and nothing changes. -/
theorem declareName_cases (policy : RedeclarationPolicy) (type : ValueType) (line : Int)
    (name : Token) (state : ParseState) :
    ∃ isNew final, declareName policy type line name state = .ok isNew final ∧
      (isNew = true ∧ GainsNamed name.lexeme state final ∨
        isNew = false ∧ Framed state final) := by
  rw [declareName, bind_of_ok (get_apply state), ScopeTable.declare]
  cases known : state.table.current.find? name.lexeme with
  | none =>
      exact ⟨true, _, rfl, .inl ⟨rfl, ⟨name.lexeme, type, line, state.table.current.name, none,
        name.location⟩, rfl, .of_add known (.refl _) rfl rfl rfl (Nat.le_refl _)⟩⟩
  | some existing =>
      obtain ⟨final, run, framed⟩ :=
        exists_reportRedeclaration policy ⟨name.lexeme, name.location, existing⟩ state
      exact ⟨false, final, bind_of_ok run, .inr ⟨rfl, framed⟩⟩

/-- The value of a declaration is stored in that declaration only. -/
theorem gainsNamed_storeInitialValue {name : Token} {start state : ParseState}
    (gains : start.GainsNamed name.lexeme state) (expression : List Token) :
    ∃ final, storeInitialValue name expression state = .ok () final ∧
      start.GainsNamed name.lexeme final := by
  unfold storeInitialValue
  cases initialValue expression with
  | none => exact ⟨state, rfl, gains⟩
  | some value =>
      obtain ⟨declaration, named, gains⟩ := gains
      have free := gains.fresh declaration (List.mem_singleton_self _)
      have stored : state.table.current.storeValue name.lexeme value =
          start.table.current.add { declaration with value := value } := by
        rw [gains.current, ← named]
        exact Scope.storeValue_add free value
      exact ⟨_, rfl, { declaration with value := value }, named,
        .of_add free gains.moves gains.nesting gains.enclosing stored gains.opened⟩

/-- A declaration adds at most one name, and what stands behind that name gives it nothing but a
value. -/
theorem keeps_variableDeclaration (policy : RedeclarationPolicy) :
    Keeps GainsOne (variableDeclaration policy) := by
  refine frames_advance.bind_one fun typeToken => ?_
  refine (frames_typeOf typeToken).bind_one fun type => ?_
  refine (frames_consume _ _).bind_one fun name => ?_
  intro state
  obtain ⟨isNew, declared, run, outcome⟩ :=
    declareName_cases policy type typeToken.location.line name state
  rw [bind_of_ok run]
  rcases outcome with ⟨rfl, named⟩ | ⟨rfl, framed⟩
  · apply ((frames_initializer declared).mono fun _ => named.trans_framed).bind
    · exact fun _ => .of_named
    · intro initial middle named
      obtain ⟨stored, run, named⟩ := gainsNamed_storeInitialValue named
        ((initial.map Prod.fst).getD [])
      rw [if_pos rfl, bind_of_ok run]
      apply EndsIn.mono ((frames_consume _ _).bind (fun _ => .pure _) stored)
      intro final framed
      exact .of_named (named.trans_framed framed)
  · apply ((frames_initializer declared).mono fun _ => framed.trans).bind
    · exact fun _ => .of_framed
    · intro initial middle framed
      rw [if_neg (by simp)]
      apply EndsIn.mono ((frames_consume _ _).bind (fun _ => .pure _) middle)
      intro final further
      exact .of_framed (framed.trans further)

/-! ## Statements with parts -/

theorem frames_goOn (start : Nat) {failure : Failure}
    (other : ∀ fault, failure ≠ .noOpenBlock fault) : Frames (goOn start failure) := by
  cases failure with
  | rejected rejection =>
      exact (frames_record _).bind fun _ => (frames_recover _ _).bind fun _ => .pure _
  | typeWord fault => exact .throw other
  | noOpenBlock fault => exact absurd rfl (other fault)

section Inner

variable {policy : RedeclarationPolicy} {inner : Parse Statement}

/-- An item adds at most one declaration, also when it is abandoned. -/
theorem keeps_declarationOrStatement (frames : Frames inner) :
    Keeps GainsOne (declarationOrStatement policy inner) := by
  refine Frames.get.bind_one fun state => ?_
  apply Keeps.tryCatch _ (fun _ => frames_goOn _) .trans_framed
  have body : Keeps GainsOne
      (if state.stream.atTypeName then variableDeclaration policy else inner) :=
    Keeps.ite (keeps_variableDeclaration policy) (frames.mono fun _ _ => .of_framed)
  exact Keeps.bind body (fun _ => Frames.pure _) id .trans_framed

theorem frames_conditionalStatement (frames : Frames inner) :
    Frames (conditionalStatement inner) := by
  refine frames_advance.bind fun keyword => ?_
  refine (frames_consume _ _).bind fun opening => ?_
  refine frames_capture.bind fun condition => ?_
  refine (frames_consume _ _).bind fun closing => ?_
  refine (frames_consume _ _).bind fun thenToken => ?_
  refine Frames.get.bind fun state => ?_
  refine (frames_checkCondition _ _ _).bind fun _ => ?_
  refine frames.bind fun consequence => ?_
  refine (frames_accept _).bind fun found => Keeps.ite ?_ (Frames.pure _)
  exact frames.bind fun alternative => .pure _

theorem keeps_blockBody (frames : Frames inner) (opening : Token) :
    Keeps GainsSome (blockBody policy inner opening) := by
  have items : Keeps GainsOne (declarationOrStatement policy inner) :=
    keeps_declarationOrStatement frames
  refine Keeps.bind (keeps_repeatUntil items) (fun children => ?_) id fun gains framed =>
    gains.trans (.of_framed framed)
  refine (frames_accept _).bind fun closed => Keeps.ite ?_ (Frames.pure _)
  exact frames_peek.bind fun _ => (frames_record _).bind fun _ => .pure _

theorem frames_blockStatement (frames : Frames inner) : Frames (blockStatement policy inner) := by
  refine (frames_consume _ _).bind fun opening => ?_
  exact (frames_inScope (keeps_blockBody frames opening)).bind fun children => .pure _

theorem frames_loopStatement (frames : Frames inner) : Frames (loopStatement policy inner) := by
  refine frames_advance.bind fun keyword => ?_
  refine (frames_consume _ _).bind fun opening => ?_
  refine frames_capture.bind fun condition => ?_
  refine (frames_consume _ _).bind fun closing => ?_
  refine (frames_expect _ _).bind fun _ => ?_
  refine (frames_blockStatement frames).bind fun body => ?_
  exact Frames.get.bind fun _ => .pure _

theorem frames_statementBody (frames : Frames inner) : Frames (statementBody policy inner) := by
  refine (frames_check _).bind fun _ => Keeps.ite frames_readStatement ?_
  refine (frames_check _).bind fun _ => Keeps.ite frames_writeStatement ?_
  refine (frames_check _).bind fun _ => Keeps.ite (frames_conditionalStatement frames) ?_
  refine (frames_check _).bind fun _ => Keeps.ite (frames_loopStatement frames) ?_
  refine (frames_check _).bind fun _ => Keeps.ite (frames_blockStatement frames) ?_
  exact frames_expressionStatement

end Inner

/-! ## Statements -/

theorem frames_tooDeep : Frames tooDeep :=
  frames_peek.bind fun _ => frames_skipStatement.bind fun _ => .throw nofun

/-- A statement keeps the frame, however many levels are left for it. -/
theorem frames_statementWithin (policy : RedeclarationPolicy) (levels : Nat) :
    Frames (statementWithin policy levels) := by
  induction levels with
  | zero => exact frames_tooDeep
  | succ levels ih => exact frames_nested (frames_statementBody ih)

theorem frames_statement (policy : RedeclarationPolicy) : Frames (statement policy) :=
  Frames.get.bind fun _ => frames_statementWithin policy _

theorem keeps_item (policy : RedeclarationPolicy) : Keeps GainsOne (item policy) :=
  keeps_declarationOrStatement (frames_statement policy)

theorem frames_block (policy : RedeclarationPolicy) : Frames (block policy) :=
  frames_blockStatement (frames_statement policy)

/-- A program adds one declaration after the other to the scope that is innermost at its start. -/
theorem endsIn_program (policy : RedeclarationPolicy) (state : ParseState) :
    EndsIn (GainsSome { state with stream := state.stream.rewound, nesting := 0 })
      (program policy state) := by
  have rest : Keeps GainsSome (do
      let statements ← repeatUntil TokenStream.atEnd (item policy)
      note (.parsed statements.length)
      return statements) :=
    Keeps.bind (keeps_repeatUntil (keeps_item policy))
      (fun _ => (frames_note _).bind fun _ => .pure _) id
      fun gains framed => gains.trans (.of_framed framed)
  exact rest { state with stream := state.stream.rewound, nesting := 0 }

/-- **Scopes and nesting are balanced on every way out.** A statement and a block leave the number
of open statements and the open scopes with their declarations as they were. A declaration or a
statement in a list adds at most one declaration, of a free name and behind the others, to the
innermost scope. A program changes the scope that is innermost at its start, by adding declarations
of free names to it. All of this holds at every place in every stream, for every table and every
number of open statements, and whether there is a result or a failure. -/
theorem scopes_and_nesting_balanced (policy : RedeclarationPolicy) (state : ParseState) :
    state.Framed (stateBehind (statement policy) state) ∧
    state.Framed (stateBehind (block policy) state) ∧
    (∃ added, added.length ≤ 1 ∧ state.Gains added (stateBehind (item policy) state)) ∧
    (∃ added, Gains added { state with stream := state.stream.rewound, nesting := 0 }
      (stateBehind (program policy) state)) :=
  ⟨(frames_statement policy).behind state, (frames_block policy).behind state,
    (keeps_item policy).behind state, (endsIn_program policy state).stateBehind⟩

end Parse

end NumericLanguage
