import NumericLanguage.Statement.Recovery
import NumericLanguage.Proofs.Analysis.Options
import NumericLanguage.Proofs.Scanning.Indexed
import NumericLanguage.Proofs.Scanning.Partition
import NumericLanguage.Proofs.Scoping.Balance

/-!
# Analyses are safe

An analysis of any text under any options has a report (`analyze_safe`). On the way there no index
into the text or into the tokens is out of range, every malformed element and every rejected
statement is caught where it should be, a token that stands for a type spells it, and no scope is
left that was not entered.

A place in the tokens of a text stands in front of the token that ends the input, so that all that
is looked at from there exists (`Within.inRange`).
-/

set_option autoImplicit false

namespace NumericLanguage

open Parse ParseState

/-! ## Indices into the tokens -/

/-- The first index from a given one on at which parsing may resume or the input ends, found by
looking at one index after the other, at most a number of times. -/
def Recovery.searchFrom (tokens : List Token) : Nat → Int → Except OutOfRange Int
  | 0, _ => .error .list
  | rounds + 1, index => do
      if (← entryAt tokens index).kind = .endOfInput then return index
      if ← boundaryAt tokens index then return index
      searchFrom tokens rounds (index + 1)

/-- All that is looked at from a place in a list of tokens is found there by its index. -/
structure InRange (tokens : List Token) (place : TokenStream) : Prop where
  next : entryAt tokens place.position = .ok place.peek
  previous : entryAt tokens (place.position - 1 : Nat) = .ok place.previous
  /-- The input ends at the token that says so. -/
  ends : place.atEnd = true ↔ place.peek.kind = .endOfInput
  /-- The search for a boundary stops, and stays in the list. -/
  resumes : ∀ rounds, place.rest.length < rounds →
    Recovery.searchFrom tokens rounds place.position = .ok place.resumed.position

/-- A place in front of the token that ends a list of tokens. -/
structure Within (tokens : List Token) (place : TokenStream) : Prop where
  whole : place.consumed.reverse ++ (place.rest ++ [place.stop]) = tokens
  inside : ∀ token ∈ place.rest, token.kind ≠ .endOfInput
  stop : place.stop.kind = .endOfInput

namespace Within

variable {tokens : List Token} {place further : TokenStream}

/-- The beginning of a list of tokens that ends where the input does. -/
theorem ofTokens {body : List Token} {stop : Token}
    (inside : ∀ token ∈ body, token.kind ≠ .endOfInput) (ends : stop.kind = .endOfInput) :
    Within (body ++ [stop]) (.ofTokens (body ++ [stop])) := by
  have goOn : ∀ token ∈ body, (!token.isEnd) = true := by
    intro token member
    simpa [Token.isEnd] using inside token member
  have stops : (!stop.isEnd) = false := by simp [Token.isEnd, ends]
  have rest : (body ++ [stop]).takeWhile (fun token => !token.isEnd) = body := by
    rw [List.takeWhile_append_of_pos goOn, List.takeWhile_cons_of_neg (by simp [stops]),
      List.append_nil]
  have found : (body ++ [stop]).find? Token.isEnd = some stop := by
    have none : body.find? Token.isEnd = none := by
      rw [List.find?_eq_none]
      intro token member
      simpa [Token.isEnd] using inside token member
    rw [List.find?_append, none, Option.none_or, List.find?_cons_of_pos (by simpa using stops)]
  have begins : TokenStream.ofTokens (body ++ [stop]) = ⟨[], body, stop⟩ := by
    rw [TokenStream.ofTokens, rest, found, Option.getD_some]
  rw [begins]
  exact ⟨rfl, inside, ends⟩

/-- A place further on is in front of the same token. -/
theorem moved (within : Within tokens place) (moves : place.Moves further) :
    Within tokens further := by
  obtain ⟨run, rest, split, rfl⟩ := moves
  refine ⟨?_, ?_, within.stop⟩
  · rw [← within.whole, split]
    simp
  · intro token member
    exact within.inside token (split ▸ List.mem_append_right run member)

/-- The next token stands at the index of the place. -/
theorem getElem?_next (within : Within tokens place) :
    tokens[place.position]? = some place.peek := by
  obtain ⟨consumed, rest, stop⟩ := place
  rw [← within.whole, List.getElem?_append_right (by simp [TokenStream.position])]
  cases rest <;> simp [TokenStream.position, TokenStream.peek]

/-- The nearest token in front stands at the index before, or else the next one is the first. -/
theorem getElem?_previous (within : Within tokens place) :
    tokens[place.position - 1]? = some place.previous := by
  have next := within.getElem?_next
  obtain ⟨consumed, rest, stop⟩ := place
  cases consumed with
  | nil => exact next
  | cons token others =>
      rw [← within.whole]
      simp [TokenStream.position, TokenStream.previous]

/-- The input ends where the next token says so. -/
theorem atEnd_iff (within : Within tokens place) :
    place.atEnd = true ↔ place.peek.kind = .endOfInput := by
  obtain ⟨consumed, rest, stop⟩ := place
  cases rest with
  | nil => simpa [TokenStream.atEnd, TokenStream.peek] using within.stop
  | cons token others =>
      have goesOn := within.inside token List.mem_cons_self
      simpa [TokenStream.atEnd, TokenStream.peek] using goesOn

/-- Whether parsing may resume at a place is found out by index. -/
theorem boundaryAt_eq (within : Within tokens place) :
    Recovery.boundaryAt tokens place.position =
      .ok (isBoundary place.consumed.head? place.peek) := by
  have next := entryAt_of_getElem? within.getElem?_next
  have previous := entryAt_of_getElem? within.getElem?_previous
  obtain ⟨consumed, rest, stop⟩ := place
  cases consumed with
  | nil =>
      rw [Recovery.boundaryAt, if_pos (by simp [TokenStream.position]), next]
      simp [isBoundary, bind, Except.bind, pure, Except.pure]
  | cons token others =>
      have behind : ¬ ((TokenStream.position ⟨token :: others, rest, stop⟩ : Nat) : Int) ≤ 0 := by
        simp only [TokenStream.position, List.length_cons]
        omega
      have before : ((TokenStream.position ⟨token :: others, rest, stop⟩ : Nat) : Int) - 1 =
          (TokenStream.position ⟨token :: others, rest, stop⟩ - 1 : Nat) := by
        simp only [TokenStream.position, List.length_cons]
        omega
      rw [Recovery.boundaryAt, if_neg behind, before, previous, next]
      by_cases semicolon : token.kind = .operator .semicolon <;>
        simp [isBoundary, TokenStream.previous, semicolon, bind, Except.bind, pure, Except.pure]

/-- The search for a boundary finds the place where parsing resumes. -/
theorem searchFrom_eq (within : Within tokens place) {rounds : Nat}
    (enough : place.rest.length < rounds) :
    Recovery.searchFrom tokens rounds place.position = .ok place.resumed.position := by
  induction rounds generalizing place with
  | zero => exact absurd enough (Nat.not_lt_zero _)
  | succ rounds ih =>
      have next := entryAt_of_getElem? within.getElem?_next
      have boundary := within.boundaryAt_eq
      rw [Recovery.searchFrom, next, boundary]
      simp only [bind, Except.bind, pure, Except.pure]
      obtain ⟨consumed, rest, stop⟩ := place
      cases rest with
      | nil =>
          have ended : (TokenStream.peek ⟨consumed, [], stop⟩).kind = .endOfInput := within.stop
          rw [if_pos ended]
          rfl
      | cons token others =>
          have goesOn : TokenStream.peek ⟨consumed, token :: others, stop⟩ = token := rfl
          rw [goesOn, if_neg (within.inside token List.mem_cons_self)]
          cases resumes : isBoundary consumed.head? token with
          | true =>
              rw [if_pos rfl]
              simp [TokenStream.resumed, discarded, resumes, TokenStream.moveOver,
                TokenStream.position]
          | false =>
              have further := within.moved (.one consumed others token stop)
              have found := ih further (Nat.lt_of_succ_lt_succ enough)
              have index : ((TokenStream.position ⟨token :: consumed, others, stop⟩ : Nat) : Int) =
                  (TokenStream.position ⟨consumed, token :: others, stop⟩ : Nat) + 1 := rfl
              have same : TokenStream.resumed ⟨token :: consumed, others, stop⟩ =
                  TokenStream.resumed ⟨consumed, token :: others, stop⟩ := by
                simp [TokenStream.resumed, discarded, resumes, TokenStream.moveOver]
              rw [if_neg (by simp), ← index, found, same]

/-- **All that is looked at from a place is in range.** -/
theorem inRange (within : Within tokens place) : InRange tokens place where
  next := entryAt_of_getElem? within.getElem?_next
  previous := entryAt_of_getElem? within.getElem?_previous
  ends := within.atEnd_iff
  resumes _ := within.searchFrom_eq

end Within

/-- The beginning of any list is in front of the token that ends the input. -/
theorem within_ofTokens (tokens : List Token) :
    Within (programTokens tokens ++ [(TokenStream.ofTokens tokens).stop]) (.ofTokens tokens) where
  whole := rfl
  inside := by
    intro token inside
    simpa [Token.isEnd] using List.mem_takeWhile_imp inside
  stop := by
    rw [TokenStream.ofTokens]
    cases found : tokens.find? Token.isEnd with
    | none => rfl
    | some stop => simpa [Token.isEnd] using List.find?_some found

/-! ## Reports -/

/-- What holds of the report on a text, and of all that was done for it. -/
structure Report.Sound (source : String) (report : Report) : Prop where
  /-- The text was scanned without breaking off, whatever is looked at on the way. -/
  scanned : Indexed.run report.options.file source =
    .ok ⟨report.tokens, report.diagnostics.ofCategory .lexical⟩
  /-- One token ends the input, and it is the last one. -/
  ended : ∃ body stop, report.tokens = body ++ [stop] ∧ stop.kind = .endOfInput ∧
    ∀ token ∈ body, token.kind ≠ .endOfInput
  /-- A token that stands for a type spells it. -/
  spelled : ∀ token ∈ report.tokens, token.kind.isTypeName = true →
    ∃ type, ValueType.ofWord token.lexeme = .ok type
  /-- Wherever parsing stands, what it looks at exists. -/
  inRange : ∀ place, (TokenStream.ofTokens report.tokens).Moves place →
    InRange report.tokens place
  /-- Parsing stands in the tokens wherever an item ends, and that is no rejection and no attempt to
  leave a scope that was not entered. -/
  contained : ∀ policy state, (TokenStream.ofTokens report.tokens).Moves state.stream →
    (TokenStream.ofTokens report.tokens).Moves (stateBehind (item policy) state).stream ∧
      ∀ failure final, item policy state = .error failure final →
        ∃ fault, failure = .typeWord fault
  /-- Parsing goes on to the end of the input. -/
  finished : ∃ statements final,
    program report.options.redeclarations (.ofTokens report.tokens) = .ok statements final ∧
      final.stream.atEnd = true
  /-- Nothing but the global scope is open. -/
  global : ∃ declarations, report.table.scopes = [⟨"global", 0, declarations⟩]

theorem Parse.exists_recover (start : Nat) (search : Bool) (state : ParseState) :
    ∃ final, recover start search state = .ok () final := by
  have moves (state : ParseState) : ∃ final,
      (do if (← get).stream.position = start then moveOver 1 : Parse Unit) state =
        .ok () final := by
    rw [bind_of_ok (get_apply state)]
    split <;> exact ⟨_, rfl⟩
  cases search with
  | false => exact moves state
  | true => exact moves { state with stream := state.stream.resumed }

/-- The only way in which an item fails is a token that spells no type. -/
theorem Parse.failure_item {policy : RedeclarationPolicy} {state final : ParseState}
    {failure : Failure} (run : item policy state = .error failure final) :
    ∃ fault, failure = .typeWord fault := by
  have ends := keeps_item policy state
  rw [run] at ends
  rw [item, declarationOrStatement, bind_of_ok (get_apply state), tryCatch_apply] at run
  split at run
  · cases run
  · rename_i body other middle _
    cases other with
    | rejected rejection =>
        -- A rejection is recorded, and parsing goes on.
        obtain ⟨recovered, goesOn⟩ := exists_recover state.stream.position
          rejection.fault.needsRecovery
          (place middle.stream middle.nesting (middle.findings.record rejection.diagnostic))
        have recorded : record rejection.diagnostic middle = .ok ()
          (place middle.stream middle.nesting (middle.findings.record rejection.diagnostic)) := rfl
        rw [goOn, bind_of_ok recorded, bind_of_ok goesOn] at run
        cases run
    | typeWord fault =>
        cases run
        exact ⟨fault, rfl⟩
    | noOpenBlock fault =>
        cases run
        exact absurd rfl (ends.2 fault)

section Reports

variable {options : AnalysisOptions} {source : String} {readings : List ParseTree}
  {final : TokenStream}

/-- The tokens of a text end with the only one that ends the input. -/
theorem exists_stop_of_tokenize (file source : String) :
    ∃ body stop, (tokenize file source).tokens = body ++ [stop] ∧ stop.kind = .endOfInput ∧
      ∀ token ∈ body, token.kind ≠ .endOfInput := by
  have accounts := accounts_tokenize file source
  refine ⟨_, _, accounts.tokens, rfl, ?_⟩
  intro token inside
  obtain ⟨piece, member, same⟩ := List.mem_filterMap.mp inside
  cases piece with
  | token found =>
      cases same
      exact accounts.notEnd token member
  | _ => cases same

/-- The beginning of the tokens of a text is in front of the one that ends the input. -/
theorem Within.of_tokenize (file source : String) :
    Within (tokenize file source).tokens (.ofTokens (tokenize file source).tokens) := by
  obtain ⟨body, stop, split, ends, inside⟩ := exists_stop_of_tokenize file source
  rw [split]
  exact Within.ofTokens inside ends

/-- A report is sound whose tokens are those of the text. -/
theorem Report.Sound.of_tokens {report : Report}
    (tokens : report.tokens = (tokenize report.options.file source).tokens)
    (lexical : report.diagnostics.ofCategory .lexical =
      (tokenize report.options.file source).diagnostics)
    (global : ∃ declarations, report.table.scopes = [⟨"global", 0, declarations⟩]) :
    report.Sound source where
  scanned := by rw [Indexed.run_eq, tokens, lexical]
  ended := by
    rw [tokens]
    exact exists_stop_of_tokenize _ source
  spelled := by
    intro token inside
    rw [tokens] at inside
    exact namesType_of_mem_tokenize inside
  inRange := by
    intro place moves
    obtain ⟨body, stop, split, ends, inside⟩ := exists_stop_of_tokenize report.options.file source
    rw [tokens, split] at moves ⊢
    exact ((Within.ofTokens inside ends).moved moves).inRange
  contained := by
    intro policy state moves
    obtain ⟨added, -, gains⟩ := (keeps_item policy).behind state
    exact ⟨moves.trans gains.moves, fun _ _ => failure_item⟩
  finished := by
    obtain ⟨readings, final, reads⟩ := exists_reads_of_source report.options.file source
    rw [tokens, ofTokens_eq_place]
    refine ⟨_, _, program_of_reads reads report.options.redeclarations 0 .nothing, ?_⟩
    exact List.isEmpty_iff.mpr reads.rest_eq_nil
  global := global

/-- Parsing leaves nothing open but the global scope. -/
theorem scopes_parsedReport
    (reads : ReadsProgram (.ofTokens (tokenize options.file source).tokens) readings final) :
    ∃ declarations, (options.parsedReport source readings).table.scopes =
      [⟨"global", 0, declarations⟩] := by
  have run := program_of_reads reads options.redeclarations 0 (options.begun source)
  have ends := endsIn_program options.redeclarations
    (place (.ofTokens (tokenize options.file source).tokens) 0 (options.begun source))
  rw [run] at ends
  obtain ⟨added, gains⟩ := ends
  have current : (options.outcome source readings).2.table.current = ⟨"global", 0, added⟩ :=
    gains.current
  have enclosing : (options.outcome source readings).2.table.enclosing = [] := gains.enclosing
  refine ⟨added, ?_⟩
  change (options.outcome source readings).2.table.scopes = _
  rw [ScopeTable.scopes, ScopeTable.stack, current, enclosing]
  rfl

end Reports

/-- **Analyses are safe.** An analysis of any text under any options has a report, and it is
sound. -/
theorem analyze_safe (options : AnalysisOptions) (source : String) :
    ∃ report, analyze options source = .ok report ∧ report.options = options ∧
      report.Sound source := by
  obtain ⟨readings, final, reads⟩ := exists_reads_of_source options.file source
  by_cases parses : options.Parses source
  · exact ⟨_, analyze_of_reads reads parses, rfl, .of_tokens rfl
      (ofCategory_lexical_outcome source options readings) (scopes_parsedReport reads)⟩
  · exact ⟨_, analyze_of_stop parses, rfl, .of_tokens rfl ofCategory_lexical_tokenize ⟨[], rfl⟩⟩

end NumericLanguage
