import NumericLanguage.Proofs.Grammar.Acceptance
import NumericLanguage.Proofs.Layout.Agreement
import NumericLanguage.Proofs.Scoping.Balance

/-!
# Layout does not matter

Where the tokens of a program stand, on which lines and at which columns, has no influence on what
is made of them. Every rule agrees with itself over paired tokens as long as the statements inside
of it do, and so the rule for statements does, by induction on the levels that are left
(`Pairing.agree_statementWithin`).

Two lists of tokens that are alike are paired index by index (`sameIndex`). Their programs have
statements that differ in places only, with the same diagnostics at the same tokens and the same
declarations, or both programs come to a token that should spell a type and does not
(`program_layout_insensitive`).
-/

set_option autoImplicit false

namespace NumericLanguage

open Parse

namespace Pairing

variable {pairing : Pairing}

/-! ## Checks -/

theorem agree_checkLeadingName {expression other : List Token}
    (runs : pairing.Runs expression other) :
    pairing.Agree Eq (checkLeadingName expression) (checkLeadingName other) := by
  cases runs with
  | nil => exact .pure rfl
  | @cons first counterpart _ _ pairs _ =>
      apply Agree.get.bind
      intro state stateToo states
      rw [(pairing.alike pairs).kind, (pairing.alike pairs).lexeme, states.table.isVisible]
      exact .ite (agree_report _ pairs) (.pure rfl)

theorem agree_checkAssignment {target other : Token} (pairs : pairing.Pairs target other)
    (type : ValueType) :
    pairing.Agree Eq (checkAssignment target type) (checkAssignment other type) := by
  apply Agree.get.bind
  intro state stateToo states
  rw [(pairing.alike pairs).lexeme]
  rcases absent_or_present (states.table.lookup other.lexeme) with
    ⟨absent, absentToo⟩ | ⟨_, _, found, given, related⟩
  · rw [absent, absentToo]
    exact agree_report _ pairs
  · rw [found, given]
    dsimp only
    rw [related.type]
    exact .ite (agree_report _ pairs) (.pure rfl)

theorem agree_checkCondition {keyword other : Token} {condition conditionToo : List Token}
    (pairs : pairing.Pairs keyword other) (runs : pairing.Runs condition conditionToo)
    (type : ValueType) :
    pairing.Agree Eq (checkCondition keyword condition type)
      (checkCondition other conditionToo type) :=
  .ite (agree_report _ (getD (head? runs) pairs)) (.pure rfl)

/-! ## Declarations -/

theorem agree_typeOf {token other : Token} (pairs : pairing.Pairs token other) :
    pairing.Agree Eq (typeOf token) (typeOf other) := by
  rw [typeOf, typeOf, (pairing.alike pairs).lexeme]
  cases ValueType.ofWord other.lexeme with
  | ok type => exact .pure rfl
  | error fault => exact .throw (.typeWord fault)

/-- A redeclaration is recorded at its name; only its text mentions a line. -/
theorem agree_reportRedeclaration (policy : RedeclarationPolicy)
    {redeclaration other : Redeclaration}
    (place : pairing.Places redeclaration.location other.location) :
    pairing.Agree Eq (reportRedeclaration policy redeclaration)
      (reportRedeclaration policy other) :=
  (agree_note _ _).bind_eq fun _ => .ite (agree_record ⟨rfl, rfl, rfl, place⟩) (.pure rfl)

theorem agree_declareName (policy : RedeclarationPolicy) (type : ValueType)
    (line lineToo : Int) {name other : Token} (pairs : pairing.Pairs name other) :
    pairing.Agree Eq (declareName policy type line name)
      (declareName policy type lineToo other) := by
  apply Agree.get.bind
  intro state stateToo states
  have scopes := states.table.current
  rw [ScopeTable.declare, ScopeTable.declare, (pairing.alike pairs).lexeme]
  rcases absent_or_present (scopes.find? other.lexeme) with
    ⟨absent, absentToo⟩ | ⟨_, _, found, given, related⟩
  · rw [absent, absentToo]
    refine (agree_note _ _).bind_eq fun _ => ?_
    refine Agree.bind_eq (.modify fun behind => ?_) fun _ => .pure rfl
    have declarations : pairing.Declarations
        ⟨other.lexeme, type, line, state.table.current.name, none, name.location⟩
        ⟨other.lexeme, type, lineToo, stateToo.table.current.name, none, other.location⟩ :=
      ⟨rfl, rfl, scopes.name, rfl, places pairs⟩
    exact { behind with table := { states.table with current := scopes.add declarations } }
  · rw [found, given]
    exact (agree_reportRedeclaration policy (places pairs)).bind_eq fun _ => .pure rfl

theorem initialValue_eq {expression other : List Token} (runs : pairing.Runs expression other) :
    initialValue expression = initialValue other := by
  cases runs with
  | nil => rfl
  | cons pairs rest =>
      cases rest with
      | nil =>
          rw [initialValue, initialValue, (pairing.alike pairs).kind, (pairing.alike pairs).value]
      | cons _ _ => rfl

theorem agree_storeInitialValue {name other : Token} {expression expressionToo : List Token}
    (pairs : pairing.Pairs name other) (runs : pairing.Runs expression expressionToo) :
    pairing.Agree Eq (storeInitialValue name expression)
      (storeInitialValue other expressionToo) := by
  rw [storeInitialValue, storeInitialValue, initialValue_eq runs, (pairing.alike pairs).lexeme]
  cases initialValue expressionToo with
  | none => exact .pure rfl
  | some value =>
      refine .modify fun states => ?_
      exact { states with table := states.table.storeValue other.lexeme value }

/-- Initial values of paired tokens, and of the same type. -/
def Initializers (pairing : Pairing) (first second : List Token × ValueType) : Prop :=
  pairing.Runs first.1 second.1 ∧ first.2 = second.2

theorem agree_initializer :
    pairing.Agree (Option.Rel pairing.Initializers) initializer initializer := by
  refine (agree_accept _).bind_eq fun found => .ite ?_ (.pure .none)
  apply agree_capture.bind
  intro expression other runs
  exact Agree.get.bind fun _ _ states => .pure (.some ⟨runs, states.table.infer runs⟩)

theorem declarationContent_eq {type typeToo name nameToo : Token}
    {initial initialToo : Option (List Token)} (types : pairing.Pairs type typeToo)
    (names : pairing.Pairs name nameToo) (initials : Option.Rel pairing.Runs initial initialToo) :
    declarationContent type name initial = declarationContent typeToo nameToo initialToo := by
  have word := (pairing.alike types).lexeme
  have target := (pairing.alike names).lexeme
  cases initials with
  | none => simp only [declarationContent, word, target]
  | some runs => simp only [declarationContent, word, target, spelledOut runs]

theorem agree_variableDeclaration (policy : RedeclarationPolicy) :
    pairing.Agree pairing.Statements (variableDeclaration policy)
      (variableDeclaration policy) := by
  apply agree_advance.bind
  intro typeToken typeTokenToo types
  apply (agree_typeOf types).bind_eq
  intro type
  apply (agree_consume _ _).bind
  intro name nameToo names
  apply (agree_declareName policy type _ _ names).bind_eq
  intro isNew
  apply agree_initializer.bind
  intro initial initialToo initials
  have expressions : Option.Rel pairing.Runs (initial.map Prod.fst) (initialToo.map Prod.fst) := by
    cases initials with
    | none => exact .none
    | some values => exact .some values.1
  have found : initial.map Prod.snd = initialToo.map Prod.snd :=
    map_eq initials fun _ _ values => values.2
  have target := congrArg some (pairing.alike names).lexeme
  have content := declarationContent_eq types names expressions
  have stored := agree_storeInitialValue names (getD expressions .nil)
  -- Whether a value is stored or not, what follows is the semicolon.
  refine .ite (stored.bind_eq fun _ => ?_) ?_
  all_goals
    refine (agree_consume _ _).bind fun _ _ _ => .pure ?_
    exact .intro rfl target found (fun _ => content) (places types) .nil

/-! ## Simple statements -/

theorem agree_readStatement : pairing.Agree pairing.Statements readStatement readStatement := by
  apply agree_advance.bind
  intro keyword keywordToo keywords
  refine (agree_consume _ _).bind fun _ _ _ => ?_
  apply (agree_consume _ _).bind
  intro name nameToo names
  refine (agree_consume _ _).bind fun _ _ _ => ?_
  refine (agree_consume _ _).bind fun _ _ _ => ?_
  apply Agree.get.bind
  intro state stateToo states
  have word := (pairing.alike names).lexeme
  have found := states.table.lookup nameToo.lexeme
  have types : (state.table.lookup nameToo.lexeme).map Declaration.type =
      (stateToo.table.lookup nameToo.lexeme).map Declaration.type :=
    map_eq found fun _ _ declarations => declarations.type
  have missing : (state.table.lookup nameToo.lexeme).isNone =
      (stateToo.table.lookup nameToo.lexeme).isNone := by
    rw [← Option.not_isSome, ← Option.not_isSome, isSome_eq found]
  dsimp only
  rw [word, types, missing]
  -- The record is the same whether the name is reported or not.
  refine .ite ((agree_report _ names).bind_eq fun _ => .pure ?_) (.pure ?_)
  all_goals exact .intro rfl rfl rfl (fun _ => rfl) (places keywords) .nil

theorem agree_writeStatement :
    pairing.Agree pairing.Statements writeStatement writeStatement := by
  apply agree_advance.bind
  intro keyword keywordToo keywords
  refine (agree_consume _ _).bind fun _ _ _ => ?_
  apply agree_capture.bind
  intro expression other runs
  refine (agree_consume _ _).bind fun _ _ _ => ?_
  refine (agree_consume _ _).bind fun _ _ _ => ?_
  refine (agree_checkLeadingName runs).bind_eq fun _ => ?_
  refine Agree.get.bind fun state stateToo states => .pure ?_
  exact .intro rfl rfl (congrArg some (states.table.infer runs)) (fun _ => spelledOut runs)
    (places keywords) .nil

/-- Targets that are paired, and values of paired tokens. -/
def Assignments (pairing : Pairing) (first second : Token × List Token) : Prop :=
  pairing.Pairs first.1 second.1 ∧ pairing.Runs first.2 second.2

/-- The shape of an assignment does not depend on places. -/
theorem assignment? {expression other : List Token} (runs : pairing.Runs expression other) :
    Option.Rel pairing.Assignments (assignment? expression) (assignment? other) := by
  cases runs with
  | nil => exact .none
  | cons targets rest =>
      cases rest with
      | nil => exact .none
      | cons signs values =>
          rw [Parse.assignment?, Parse.assignment?, (pairing.alike targets).kind,
            (pairing.alike signs).kind]
          split
          · exact .some ⟨targets, values⟩
          · exact .none

theorem agree_expressionStatement :
    pairing.Agree pairing.Statements expressionStatement expressionStatement := by
  apply agree_peek.bind
  intro first firstToo firsts
  apply agree_capture.bind
  intro expression other runs
  refine (agree_consume _ _).bind fun _ _ _ => ?_
  have content := spelledOut runs
  rcases absent_or_present (assignment? runs) with
    ⟨absent, absentToo⟩ | ⟨⟨target, value⟩, ⟨targetToo, valueToo⟩, found, given, targets, values⟩
  · rw [absent, absentToo]
    refine Agree.get.bind fun state stateToo states => .pure ?_
    refine .intro rfl rfl ?_ (fun _ => content) (places firsts) .nil
    dsimp only
    rw [states.table.infer runs]
    cases runs with
    | nil => rfl
    | cons _ _ => rfl
  · rw [found, given]
    apply Agree.get.bind
    intro state stateToo states
    dsimp only
    rw [states.table.infer values]
    refine (agree_checkAssignment targets _).bind_eq fun _ => .pure ?_
    exact .intro rfl (congrArg some (pairing.alike targets).lexeme) rfl (fun _ => content)
      (places firsts) .nil

/-! ## Statements with parts -/

theorem agree_goOn (start : Nat) {failure other : Failure}
    (failures : pairing.Failures failure other) :
    pairing.Agree (Option.Rel pairing.Statements) (goOn start failure) (goOn start other) := by
  cases failures with
  | rejected rejections =>
      refine (agree_record rejections.diagnostic).bind_eq fun _ => ?_
      rw [rejections.fault.needsRecovery]
      exact (agree_recover _ _).bind_eq fun _ => .pure .none
  | typeWord fault => exact .throw (.typeWord fault)
  | noOpenBlock fault => exact .throw (.noOpenBlock fault)

section Inner

variable {policy : RedeclarationPolicy} {inner : Parse Statement}

/-- An item is recognised on both sides, or recovery leads to the same place on both. -/
theorem agree_declarationOrStatement (agree : pairing.Agree pairing.Statements inner inner) :
    pairing.Agree (Option.Rel pairing.Statements) (declarationOrStatement policy inner)
      (declarationOrStatement policy inner) := by
  apply Agree.get.bind
  intro state stateToo states
  dsimp only
  rw [states.stream.atTypeName, states.stream.position]
  refine Agree.tryCatch ?_ fun _ _ => agree_goOn _
  refine Agree.bind (.ite (agree_variableDeclaration policy) agree) fun _ _ statements => ?_
  exact .pure (.some statements)

theorem agree_conditionalStatement (agree : pairing.Agree pairing.Statements inner inner) :
    pairing.Agree pairing.Statements (conditionalStatement inner)
      (conditionalStatement inner) := by
  apply agree_advance.bind
  intro keyword keywordToo keywords
  refine (agree_consume _ _).bind fun _ _ _ => ?_
  apply agree_capture.bind
  intro condition conditionToo runs
  refine (agree_consume _ _).bind fun _ _ _ => ?_
  refine (agree_consume _ _).bind fun _ _ _ => ?_
  apply Agree.get.bind
  intro state stateToo states
  dsimp only
  rw [states.table.infer runs, spelledOut runs]
  refine (agree_checkCondition keywords runs _).bind_eq fun _ => ?_
  apply agree.bind
  intro consequence consequenceToo first
  refine (agree_accept _).bind_eq fun found => .ite ?_ (.pure ?_)
  · refine agree.bind fun alternative alternativeToo second => .pure ?_
    exact .intro rfl rfl rfl (fun _ => rfl) (places keywords) (.cons first (.cons second .nil))
  · exact .intro rfl rfl rfl (fun _ => rfl) (places keywords) (.cons first .nil)

theorem agree_blockBody (agree : pairing.Agree pairing.Statements inner inner)
    {opening other : Token} (openings : pairing.Pairs opening other) :
    pairing.Agree (List.Forall₂ pairing.Statements) (blockBody policy inner opening)
      (blockBody policy inner other) := by
  have items : pairing.Agree (Option.Rel pairing.Statements)
      (declarationOrStatement policy inner) (declarationOrStatement policy inner) :=
    agree_declarationOrStatement agree
  have stops {stream streamToo : TokenStream} (streams : pairing.Streams stream streamToo) :
      (stream.startsWith (.operator .rightBrace) || stream.atEnd) =
        (streamToo.startsWith (.operator .rightBrace) || streamToo.atEnd) := by
    rw [streams.startsWith, streams.atEnd]
  apply (Agree.repeatUntil stops items).bind
  intro children childrenToo lists
  refine (agree_accept _).bind_eq fun closed => .ite ?_ (.pure lists)
  apply agree_peek.bind
  intro following followingToo found
  refine (agree_record (Rejections.diagnostic ?_)).bind_eq fun _ => .pure lists
  exact ⟨.unclosedBlock (places openings), found⟩

/-- Blocks correspond to each other in everything but their texts, which mention lines. -/
theorem agree_blockStatement (agree : pairing.Agree pairing.Statements inner inner) :
    pairing.Agree pairing.Statements (blockStatement policy inner)
      (blockStatement policy inner) := by
  apply (agree_consume _ _).bind
  intro opening openingToo openings
  refine (agree_inScope (agree_blockBody agree openings)).bind fun _ _ lists => .pure ?_
  exact .intro rfl rfl rfl (fun noBlock => absurd rfl noBlock) (places openings) lists

theorem agree_loopStatement (agree : pairing.Agree pairing.Statements inner inner) :
    pairing.Agree pairing.Statements (loopStatement policy inner)
      (loopStatement policy inner) := by
  apply agree_advance.bind
  intro keyword keywordToo keywords
  refine (agree_consume _ _).bind fun _ _ _ => ?_
  apply agree_capture.bind
  intro condition conditionToo runs
  refine (agree_consume _ _).bind fun _ _ _ => ?_
  refine (agree_expect _ _).bind_eq fun _ => ?_
  apply (agree_blockStatement agree).bind
  intro body bodyToo bodies
  refine Agree.get.bind fun state stateToo states => .pure ?_
  exact .intro rfl rfl (congrArg some (states.table.infer runs)) (fun _ => spelledOut runs)
    (places keywords) (.cons bodies .nil)

theorem agree_statementBody (agree : pairing.Agree pairing.Statements inner inner) :
    pairing.Agree pairing.Statements (statementBody policy inner) (statementBody policy inner) := by
  refine (agree_check _).bind_eq fun _ => .ite agree_readStatement ?_
  refine (agree_check _).bind_eq fun _ => .ite agree_writeStatement ?_
  refine (agree_check _).bind_eq fun _ => .ite (agree_conditionalStatement agree) ?_
  refine (agree_check _).bind_eq fun _ => .ite (agree_loopStatement agree) ?_
  refine (agree_check _).bind_eq fun _ => .ite (agree_blockStatement agree) ?_
  exact agree_expressionStatement

end Inner

/-! ## Statements -/

theorem agree_tooDeep : pairing.Agree pairing.Statements tooDeep tooDeep := by
  apply agree_peek.bind
  intro following followingToo found
  exact agree_skipStatement.bind_eq fun _ => .throw (.rejected ⟨.tooDeep _, found⟩)

/-- A statement agrees with itself, however many levels are left for it. -/
theorem agree_statementWithin (policy : RedeclarationPolicy) (levels : Nat) :
    pairing.Agree pairing.Statements (statementWithin policy levels)
      (statementWithin policy levels) := by
  induction levels with
  | zero => exact agree_tooDeep
  | succ levels ih => exact agree_nested (agree_statementBody ih)

theorem agree_statement (policy : RedeclarationPolicy) :
    pairing.Agree pairing.Statements (statement policy) (statement policy) := by
  apply Agree.get.bind
  intro state stateToo states
  rw [states.nesting]
  exact agree_statementWithin policy _

theorem agree_item (policy : RedeclarationPolicy) :
    pairing.Agree (Option.Rel pairing.Statements) (item policy) (item policy) :=
  agree_declarationOrStatement (agree_statement policy)

theorem agree_program (policy : RedeclarationPolicy) :
    pairing.Agree (List.Forall₂ pairing.Statements) (program policy) (program policy) := by
  refine Agree.bind_eq (.modify fun states => ?_) fun _ => ?_
  · exact { states with stream := states.stream.rewound, nesting := rfl }
  · refine (Agree.repeatUntil Streams.atEnd (agree_item policy)).bind fun _ _ statements => ?_
    exact (agree_note _ _).bind_eq fun _ => .pure statements

end Pairing

/-! ## Lists of tokens that are alike -/

section Lists

variable {tokens others : List Token}

theorem Token.Alike.isEnd {first second : Token} (alike : first.Alike second) :
    first.isEnd = second.isEnd := by
  rw [Token.isEnd, Token.isEnd, alike.kind]

/-- Lists that are alike stay so when they are closed. -/
theorem alike_closedTokens (alike : List.Forall₂ Token.Alike tokens others) :
    List.Forall₂ Token.Alike (closedTokens tokens) (closedTokens others) := by
  have last : Option.Rel Token.Alike tokens.getLast? others.getLast? := by
    rw [← List.head?_reverse, ← List.head?_reverse]
    exact Pairing.head? (List.forall₂_reverse_iff.mpr alike)
  have ends : tokens.getLast?.any Token.isEnd = others.getLast?.any Token.isEnd :=
    Pairing.option_any_eq last fun _ _ pair => pair.isEnd
  rw [closedTokens, closedTokens, ends]
  split
  · exact alike
  · exact List.rel_append alike (.cons ⟨rfl, rfl, rfl⟩ .nil)

/-- The input ends at the same index. -/
theorem alike_programTokens (alike : List.Forall₂ Token.Alike tokens others) :
    List.Forall₂ Token.Alike (programTokens tokens) (programTokens others) := by
  induction alike with
  | nil => exact .nil
  | cons pair _ ih =>
      rw [programTokens, programTokens, List.takeWhile_cons, List.takeWhile_cons, pair.isEnd]
      split
      · exact .cons pair ih
      · exact .nil

/-- The pairing of the tokens with the same index in two lists that are alike. The token that closes
a list counts. -/
def sameIndex (alike : List.Forall₂ Token.Alike tokens others) : Pairing where
  Pairs token other :=
    ∃ index, (closedTokens tokens)[index]? = some token ∧
      (closedTokens others)[index]? = some other
  alike := by
    rintro token other ⟨index, found, given⟩
    obtain ⟨inside, rfl⟩ := List.getElem?_eq_some_iff.mp found
    obtain ⟨insideToo, rfl⟩ := List.getElem?_eq_some_iff.mp given
    exact (alike_closedTokens alike).get inside insideToo

/-- At their beginnings, two lists that are alike are streams of paired tokens. -/
theorem streams_ofTokens (alike : List.Forall₂ Token.Alike tokens others) :
    (sameIndex alike).Streams (.ofTokens tokens) (.ofTokens others) := by
  have size := (alike_programTokens alike).length_eq
  constructor
  case consumed => exact .nil
  case rest =>
    change (sameIndex alike).Runs (programTokens tokens) (programTokens others)
    refine List.forall₂_iff_get.mpr ⟨size, ?_⟩
    intro index inside insideToo
    refine ⟨index, getElem?_closedTokens ?_, getElem?_closedTokens ?_⟩
    · rw [List.getElem?_append_left inside]
      exact List.getElem?_eq_getElem inside
    · rw [List.getElem?_append_left insideToo]
      exact List.getElem?_eq_getElem insideToo
  case stop =>
    refine ⟨(programTokens tokens).length, getElem?_closedTokens ?_, getElem?_closedTokens ?_⟩
    · exact List.getElem?_concat_length
    · rw [size]
      exact List.getElem?_concat_length

/-- A program has a result, unless it comes to a token that should spell a type and does not. -/
theorem program_ok_or_typeWord (policy : RedeclarationPolicy) (tokens : List Token) :
    (∃ statements final, program policy (.ofTokens tokens) = .ok statements final) ∨
      (∃ token ∈ programTokens tokens, ¬ token.NamesType) ∧
        ∃ fault final, program policy (.ofTokens tokens) = .error (.typeWord fault) final := by
  rcases reads_or_aborts (.ofTokens tokens) with ⟨_, _, reads⟩ | ⟨misnamed, aborts⟩
  · exact .inl ⟨_, _, program_of_reads reads policy 0 .nothing⟩
  · obtain ⟨failure, final, run, escapes⟩ := aborts policy 0 .nothing
    refine .inr ⟨misnamed, ?_⟩
    have ends := endsIn_program policy (.ofTokens tokens)
    rw [ofTokens_eq_place, run] at ends
    cases failure with
    | rejected rejection => exact absurd rfl (escapes rejection)
    | typeWord fault => exact ⟨fault, final, run⟩
    | noOpenBlock fault => exact absurd rfl (ends.2 fault)

/-- **Layout does not matter.** If two lists of tokens are alike, then both programs have results or
neither has one. The results have the same shape: statements that correspond to each other are equal
but for their places and the texts of blocks, and so are the diagnostics but for their places and
texts, and the declarations of the scopes that are open at the end but for their places. What
corresponds to each other stands at tokens with the same index. Without results, both programs have
come to the same word where a type should be, and have recorded alike up to there. -/
theorem program_layout_insensitive (policy : RedeclarationPolicy)
    (alike : List.Forall₂ Token.Alike tokens others) :
    (∃ statements final counterparts last,
      program policy (.ofTokens tokens) = .ok statements final ∧
      program policy (.ofTokens others) = .ok counterparts last ∧
      List.Forall₂ (sameIndex alike).Statements statements counterparts ∧
      List.Forall₂ (sameIndex alike).Diagnostics final.diagnostics last.diagnostics ∧
      (sameIndex alike).Tables final.table last.table) ∨
    (∃ fault final last,
      program policy (.ofTokens tokens) = .error (.typeWord fault) final ∧
      program policy (.ofTokens others) = .error (.typeWord fault) last ∧
      List.Forall₂ (sameIndex alike).Diagnostics final.diagnostics last.diagnostics ∧
      ∃ token ∈ programTokens tokens, ¬ token.NamesType) := by
  have states : (sameIndex alike).States (.ofTokens tokens) (.ofTokens others) :=
    ⟨streams_ofTokens alike, rfl, ⟨⟨rfl, rfl, .nil⟩, .nil, rfl⟩, .nil⟩
  have outcomes := Pairing.agree_program policy _ _ states
  have course := program_ok_or_typeWord policy tokens
  -- From here on only the two outcomes matter, and they fall into the same case.
  generalize program policy (.ofTokens tokens) = result,
    program policy (.ofTokens others) = counterpart at outcomes course ⊢
  cases outcomes with
  | ok related ended =>
      exact .inl ⟨_, _, _, _, rfl, rfl, related, ended.diagnostics, ended.table⟩
  | error failures ended =>
      rcases course with ⟨_, _, found⟩ | ⟨misnamed, fault, _, failed⟩
      · cases found
      · cases failed
        cases failures
        exact .inr ⟨fault, _, _, rfl, rfl, ended.diagnostics, misnamed⟩

/-- A list of tokens, all of them moved to one place. -/
def relocated (place : Location) (tokens : List Token) : List Token :=
  tokens.map fun token => { token with location := place }

theorem alike_relocated (place : Location) (tokens : List Token) :
    List.Forall₂ Token.Alike tokens (relocated place tokens) :=
  List.forall₂_map_right_iff.mpr (List.forall₂_same.mpr fun _ _ => ⟨rfl, rfl, rfl⟩)

/-- A program with nested blocks is read as it is when all of it stands at one place, and the same
is found in it. -/
theorem program_layout_insensitive_branching :
    ∃ alike : List.Forall₂ Token.Alike branchingTokens
        (relocated ⟨"<string>", 7, 3, 40⟩ branchingTokens),
      ∃ statements final counterparts last,
        program {} (.ofTokens branchingTokens) = .ok statements final ∧
        program {} (.ofTokens (relocated ⟨"<string>", 7, 3, 40⟩ branchingTokens)) =
          .ok counterparts last ∧
        (final.diagnostics.ofCategory .semantic).map Diagnostic.code = [some "S001", some "S010"] ∧
        List.Forall₂ (sameIndex alike).Statements statements counterparts ∧
        List.Forall₂ (sameIndex alike).Diagnostics final.diagnostics last.diagnostics ∧
        (sameIndex alike).Tables final.table last.table := by
  have alike := alike_relocated ⟨"<string>", 7, 3, 40⟩ branchingTokens
  obtain ⟨_, _, given, -, codes, -⟩ := exists_run_branchingTokens
  refine ⟨alike, ?_⟩
  rcases program_layout_insensitive {} alike with
    ⟨statements, final, counterparts, last, run, runToo, records, found, tables⟩ |
    ⟨_, _, _, failed, -⟩
  · cases run.symm.trans given
    exact ⟨_, _, counterparts, last, run, runToo, codes, records, found, tables⟩
  · cases failed.symm.trans given

/-- A token that stands for `long` and spells another word. -/
def misspeltType : Token := ⟨.keyword .longType, "integer", none, ⟨"<string>", 1, 1, 0⟩⟩

/-- Two lists of tokens may be alike without a result for either of them. -/
theorem program_without_statements :
    List.Forall₂ Token.Alike [misspeltType] (relocated ⟨"<string>", 7, 3, 40⟩ [misspeltType]) ∧
      (¬ ∃ statements final, program {} (.ofTokens [misspeltType]) = .ok statements final) ∧
      ¬ ∃ statements final,
        program {} (.ofTokens (relocated ⟨"<string>", 7, 3, 40⟩ [misspeltType])) =
          .ok statements final := by
  refine ⟨alike_relocated _ _, ?_, ?_⟩
  · rintro ⟨statements, final, run⟩
    cases run
  · rintro ⟨statements, final, run⟩
    cases run

end Lists

end NumericLanguage
