import NumericLanguage.Proofs.Analysis.Anchors
import NumericLanguage.Proofs.Recovery.Blocks
import NumericLanguage.Proofs.Recovery.Containment

/-!
# Parsing moves on

A program and the inside of a block are parsed by turns. In each one a declaration or a statement is
recognised, or nothing is. What a turn moves over is its segment (`Turn`): it is not empty and ends
at the end of the input at the latest, so there is a last turn. The segments of a program are its
tokens, cut into pieces (`program_moves_on`), and the same holds inside every block.

No token is lost silently. A turn that recognises something runs its rule, which ends where the turn
does. A turn that recognises nothing ends with a report, at a token of its segment or the next one.
After an unexpected token the next turn begins at the first boundary from there on
(`FirstBoundary`). Where that is the place at which the turn began it would not have moved, and goes
on by one token instead.
-/

set_option autoImplicit false

namespace NumericLanguage

open Parse ParseState

/-! ## Boundaries -/

/-- An index at which the input ends, at which a statement begins, or which is right behind
a semicolon. -/
def ResumesAt (tokens : List Token) (index : Nat) : Prop :=
  ∃ token, tokens[index]? = some token ∧
    (token.kind = .endOfInput ∨ token.kind.startsStatement = true ∨
      0 < index ∧ ∃ previous, tokens[index - 1]? = some previous ∧
        previous.kind = .operator .semicolon)

/-- The least of these indices from a given one on. -/
structure FirstBoundary (tokens : List Token) (low index : Nat) : Prop where
  le : low ≤ index
  resumes : ResumesAt tokens index
  least : ∀ other, low ≤ other → other < index → ¬ ResumesAt tokens other

namespace Within

variable {tokens : List Token} {place : TokenStream}

/-- Whether an index is a boundary is seen at the place that it stands for. -/
theorem resumesAt_iff (within : Within tokens place) :
    ResumesAt tokens place.position ↔
      place.atEnd = true ∨ isBoundary place.consumed.head? place.peek = true := by
  have next := within.getElem?_next
  have ended := within.atEnd_iff
  have previous := within.getElem?_previous
  rw [ended, isBoundary, Bool.or_eq_true]
  unfold ResumesAt
  rw [next]
  obtain ⟨consumed, rest, stop⟩ := place
  cases consumed with
  | nil => simp [TokenStream.position]
  | cons token others =>
      rw [previous]
      simp [TokenStream.position, TokenStream.previous, or_comm]

/-- Recovery leads to the first boundary. -/
theorem firstBoundary_resumed (within : Within tokens place) :
    FirstBoundary tokens place.position place.resumed.position := by
  obtain ⟨consumed, rest, stop⟩ := place
  induction rest generalizing consumed with
  | nil =>
      exact ⟨Nat.le_refl _, within.resumesAt_iff.mpr (.inl rfl),
        fun other low high => absurd high (Nat.not_lt_of_le low)⟩
  | cons token rest ih =>
      cases boundary : isBoundary consumed.head? token with
      | true =>
          have stays : TokenStream.resumed ⟨consumed, token :: rest, stop⟩ =
              ⟨consumed, token :: rest, stop⟩ := by
            simp [TokenStream.resumed, discarded, boundary, TokenStream.moveOver]
          rw [stays]
          exact ⟨Nat.le_refl _, within.resumesAt_iff.mpr (.inr boundary),
            fun other low high => absurd high (Nat.not_lt_of_le low)⟩
      | false =>
          have same : TokenStream.resumed ⟨consumed, token :: rest, stop⟩ =
              TokenStream.resumed ⟨token :: consumed, rest, stop⟩ := by
            simp [TokenStream.resumed, discarded, boundary, TokenStream.moveOver]
          have further := ih (token :: consumed) (within.moved (.one consumed rest token stop))
          rw [same]
          refine ⟨Nat.le_of_succ_le further.le, further.resumes, ?_⟩
          intro other low high resumes
          rcases Nat.eq_or_lt_of_le low with rfl | later
          · rcases within.resumesAt_iff.mp resumes with ended | found
            · cases ended
            · cases boundary.symm.trans found
          · exact further.least other later high resumes

end Within

/-- Whether an index is a boundary is seen in a beginning of the list. -/
theorem resumesAt_append {tokens : List Token} {index : Nat} (inside : index < tokens.length)
    (more : List Token) : ResumesAt (tokens ++ more) index ↔ ResumesAt tokens index := by
  have before : index - 1 < tokens.length := Nat.lt_of_le_of_lt (Nat.sub_le _ _) inside
  unfold ResumesAt
  rw [List.getElem?_append_left inside, List.getElem?_append_left before]

/-- The first boundary of a beginning of a list is that of the whole list. -/
theorem FirstBoundary.append {tokens : List Token} {low index : Nat}
    (first : FirstBoundary tokens low index) (more : List Token) :
    FirstBoundary (tokens ++ more) low index := by
  obtain ⟨token, found, -⟩ := first.resumes
  have inside := (List.getElem?_eq_some_iff.mp found).1
  refine ⟨first.le, (resumesAt_append inside more).mpr first.resumes, ?_⟩
  intro other fromLow before resumes
  exact first.least other fromLow before
    ((resumesAt_append (Nat.lt_trans before inside) more).mp resumes)

/-! ## Turns -/

/-- The rule that a turn begins with. -/
def Parse.itemRule (policy : RedeclarationPolicy) (inner : Parse Statement)
    (stream : TokenStream) : Parse Statement :=
  if stream.atTypeName then variableDeclaration policy else inner

/-- A turn that begins at a state recognises nothing and ends at another one. The last diagnostic
that it records stands at the token with an index. -/
structure Abandons (tokens : List Token) (start : ParseState) (diagnostic : Diagnostic)
    (index : Nat) (behind : ParseState) : Prop where
  last : ∃ earlier, start.diagnostics <+: earlier ∧ behind.diagnostics = earlier ++ [diagnostic]
  located : ∃ token, (closedTokens tokens)[index]? = some token ∧
    diagnostic.location = token.location
  fromStart : start.stream.position ≤ index
  inFront : index ≤ behind.stream.position
  /-- A statement that is nested too deep has been skipped. After an unexpected token parsing goes
  on at the first boundary, unless that is where the turn began. -/
  resumes : diagnostic.code = some "P005" ∨
    diagnostic.code = some "P001" ∧ ∃ boundary,
      FirstBoundary (closedTokens tokens) index boundary ∧
        behind.stream.position =
          if boundary = start.stream.position then boundary + 1 else boundary

/-- A turn in a list of tokens: the state where it begins, what it moves over, what it recognises,
and the state where it ends. -/
structure Turn (policy : RedeclarationPolicy) (inner : Parse Statement) (tokens : List Token)
    (start : ParseState) (segment : List Token) (result : Option Statement)
    (behind : ParseState) : Prop where
  calls : declarationOrStatement policy inner start = .ok result behind
  takes : start.stream.rest = segment ++ behind.stream.rest
  gives : behind.stream.consumed = segment.reverse ++ start.stream.consumed
  advances : start.stream.position < behind.stream.position
  /-- The end of the input is not passed. -/
  inside : behind.stream.position ≤ (programTokens tokens).length
  /-- What is recognised is what the rule gives, and nothing is discarded behind it. -/
  complete : ∀ statement, result = some statement →
    itemRule policy inner start.stream start = .ok statement behind
  abandoned : result = none → ∃ diagnostic index, Abandons tokens start diagnostic index behind

/-- Turns one after the other, until the stream satisfies a test, with their segments and what they
recognise. -/
inductive Turns (policy : RedeclarationPolicy) (inner : Parse Statement) (tokens : List Token)
    (stops : TokenStream → Bool) :
    ParseState → List (List Token) → List Statement → ParseState → Prop
  | done {state : ParseState} : stops state.stream = true →
      Turns policy inner tokens stops state [] [] state
  | next {state middle final : ParseState} {segment : List Token}
      {segments : List (List Token)} {result : Option Statement} {others : List Statement} :
      stops state.stream = false → Turn policy inner tokens state segment result middle →
      Turns policy inner tokens stops middle segments others final →
      Turns policy inner tokens stops state (segment :: segments) (result.toList ++ others) final

/-- What is recognised is what the rule gives. -/
theorem itemRule_of_some {policy : RedeclarationPolicy} {inner : Parse Statement}
    {start behind : ParseState} {statement : Statement}
    (run : declarationOrStatement policy inner start = .ok (some statement) behind) :
    itemRule policy inner start.stream start = .ok statement behind := by
  have body : declarationOrStatement policy inner start =
      tryCatch (some <$> itemRule policy inner start.stream) (goOn start.stream.position) start :=
    rfl
  rw [body, tryCatch_apply, map_apply] at run
  cases ended : itemRule policy inner start.stream start with
  | ok found final =>
      rw [ended] at run
      cases run
      rfl
  | error failure final =>
      rw [ended] at run
      cases failure with
      | typeWord fault => cases run
      | noOpenBlock fault => cases run
      | rejected rejection =>
          simp only [goOn, bind_apply] at run
          split at run
          · split at run <;> cases run
          · cases run

section Turning

variable {policy : RedeclarationPolicy} {inner : Parse Statement} {tokens : List Token}
  {levels nesting : Nat} {stream middle : TokenStream} {reading : ParseTree}

/-- Behind an unexpected token the next turn begins at the boundary that is found, or one token
further on if that is where the turn began. -/
theorem position_recovered {middle : TokenStream} {rejection : Rejection}
    (moves : stream.Moves middle) (more : stream.rest ≠ [])
    (searches : rejection.fault.needsRecovery = true) :
    (middle.recovered stream (some rejection)).position =
      if middle.resumed.position = stream.position then middle.resumed.position + 1
      else middle.resumed.position := by
  have resumed : middle.resumedAfter rejection.fault = middle.resumed := by
    rw [TokenStream.resumedAfter, if_pos searches]
  have resumes : stream.Moves middle.resumed := moves.trans (.moveOver _ _)
  rw [TokenStream.recovered_some, resumed]
  split
  case isFalse => rfl
  case isTrue stays =>
    have size := resumes.position_eq
    have some_left := List.length_pos_iff.mpr more
    simp only [TokenStream.position, TokenStream.moveOver, List.length_append, List.length_reverse,
      List.length_take] at size stays ⊢
    omega

/-- What an abandoned item records ends with its rejection. -/
theorem exists_recorded {rejection : Rejection} (isAbandoned : reading.rejection? = some rejection)
    (policy : RedeclarationPolicy) (findings : Findings) :
    ∃ added, (reading.effect policy findings).2.diagnostics = findings.diagnostics ++ added ∧
      (ParseTree.settle (reading.effect policy findings)).diagnostics =
        findings.diagnostics ++ (added ++ [rejection.diagnostic]) := by
  obtain ⟨added, split, -⟩ := reading.effect_extends policy findings
  refine ⟨added, split, ?_⟩
  rw [ParseTree.settle, reading.effect_of_rejection policy isAbandoned, ← List.append_assoc,
    ← split]
  rfl

/-- An item that is abandoned leaves its report behind, and the place to which recovery leads. -/
theorem ReadsItem.abandons {rejection : Rejection}
    (reads : ReadsItem levels stream reading middle)
    (placed : (TokenStream.ofTokens tokens).Moves stream) (more : stream.rest ≠ [])
    (isAbandoned : reading.rejection? = some rejection) (policy : RedeclarationPolicy)
    (nesting : Nat) (findings : Findings) :
    ∃ index, Abandons tokens (place stream nesting findings) rejection.diagnostic index
      (place (middle.recovered stream (some rejection)) nesting
        (ParseTree.settle (reading.effect policy findings))) := by
  obtain ⟨behind, closed⟩ := exists_closedTokens_eq tokens
  have within := (within_ofTokens tokens).moved placed
  have withinMiddle := within.moved reads.moves
  have moves := TokenStream.moves_recovered middle stream (some rejection)
  obtain ⟨added, -, recorded⟩ := exists_recorded isAbandoned policy findings
  have last : ∃ earlier, findings.diagnostics <+: earlier ∧
      (ParseTree.settle (reading.effect policy findings)).diagnostics =
        earlier ++ [rejection.diagnostic] :=
    ⟨findings.diagnostics ++ added, List.prefix_append _ _, by rw [recorded, List.append_assoc]⟩
  rcases reads.abandoned isAbandoned with tooDeep | ⟨kind, context, rfl⟩
  · obtain ⟨anchored, split, inOrder⟩ := reads.anchored policy within findings
    obtain rfl : anchored = added ++ [rejection.diagnostic] :=
      List.append_cancel_left (split.symm.trans recorded)
    obtain ⟨index, token, low, high, found, stands⟩ :=
      inOrder.exists_index (List.mem_append_right _ List.mem_cons_self)
    refine ⟨index, last, ⟨token, getElem?_closedTokens found, stands⟩, low,
      Nat.le_trans high moves.position_le, .inl ?_⟩
    rw [Rejection.diagnostic, tooDeep]
    rfl
  · refine ⟨middle.position, last,
      ⟨middle.peek, getElem?_closedTokens withinMiddle.getElem?_next, rfl⟩,
      reads.moves.position_le, moves.position_le, .inr ⟨rfl, middle.resumed.position, ?_, ?_⟩⟩
    · rw [closed]
      exact withinMiddle.firstBoundary_resumed.append behind
    · exact position_recovered reads.moves more rfl

/-- An item is a turn. -/
theorem ReadsItem.exists_turn (reads : ReadsItem levels stream reading middle)
    (placed : (TokenStream.ofTokens tokens).Moves stream) (more : stream.rest ≠ [])
    (agrees : ∀ state : ParseState, state.nesting = nesting →
      declarationOrStatement policy inner state =
        declarationOrStatement policy (statementWithin policy levels) state)
    (findings : Findings) :
    ∃ segment, Turn policy inner tokens (place stream nesting findings) segment
      (reading.effect policy findings).1.toOption
      (place (middle.recovered stream reading.rejection?) nesting
        (ParseTree.settle (reading.effect policy findings))) := by
  have run := (agrees (place stream nesting findings) rfl).trans (reads.run policy nesting findings)
  have moves := reads.moves.trans (middle.moves_recovered stream reading.rejection?)
  have fewer := reads.recovered_lt more
  have size := moves.position_eq
  have total := (placed.trans moves).position_eq
  obtain ⟨segment, rest, split, same⟩ := moves
  refine ⟨segment, run, by rw [same]; exact split, by rw [same]; rfl, ?_, ?_, ?_, ?_⟩
  · change stream.position < (middle.recovered stream reading.rejection?).position
    omega
  · change (middle.recovered stream reading.rejection?).position ≤
      (TokenStream.ofTokens tokens).rest.length
    rw [show (TokenStream.ofTokens tokens).position = 0 from rfl] at total
    omega
  · intro statement recognised
    rw [recognised] at run
    exact itemRule_of_some run
  · intro nothing
    cases isAbandoned : reading.rejection? with
    | none =>
        obtain ⟨statement, recognised⟩ := ParseTree.exists_of_complete policy isAbandoned findings
        rw [recognised] at nothing
        cases nothing
    | some rejection =>
        exact ⟨_, reads.abandons placed more isAbandoned policy nesting findings⟩

/-- Items are turns, and their segments are what lies between the places. -/
theorem ReadsItems.exists_turns {stops : TokenStream → Bool} {final : TokenStream}
    {readings : List ParseTree} (reads : ReadsItems stops levels stream readings final)
    (placed : (TokenStream.ofTokens tokens).Moves stream) (atEnd : StopsAtEnd stops)
    (agrees : ∀ state : ParseState, state.nesting = nesting →
      declarationOrStatement policy inner state =
        declarationOrStatement policy (statementWithin policy levels) state)
    (findings : Findings) :
    ∃ segments, Turns policy inner tokens stops (place stream nesting findings) segments
        (ParseTree.effectAll policy readings findings).1
        (place final nesting (ParseTree.effectAll policy readings findings).2) ∧
      stream.rest = segments.flatten ++ final.rest := by
  induction readings generalizing stream findings with
  | nil =>
      cases reads with
      | done stopped => exact ⟨[], .done stopped, rfl⟩
  | cons reading readings ih =>
      cases reads with
      | next goesOn item others =>
          obtain ⟨segment, turn⟩ :=
            item.exists_turn placed (atEnd.rest_ne_nil goesOn) agrees findings
          have moves := item.moves.trans (TokenStream.moves_recovered _ stream reading.rejection?)
          obtain ⟨segments, turns, split⟩ := ih others (placed.trans moves) _
          refine ⟨segment :: segments, .next goesOn turn turns, ?_⟩
          rw [List.flatten_cons, List.append_assoc, ← split]
          exact turn.takes

/-- No segment is empty. -/
theorem Turns.ne_nil {stops : TokenStream → Bool} {state final : ParseState}
    {segments : List (List Token)} {statements : List Statement}
    (turns : Turns policy inner tokens stops state segments statements final) :
    ∀ segment ∈ segments, segment ≠ [] := by
  induction turns with
  | done _ => exact nofun
  | next _ turn _ ih =>
      intro segment inside
      rcases List.mem_cons.mp inside with rfl | later
      · rintro rfl
        have advances := turn.advances
        rw [TokenStream.position, TokenStream.position, turn.gives] at advances
        exact absurd advances (Nat.lt_irrefl _)
      · exact ih segment later

/-! ## Programs and blocks -/

/-- A place in the tokens of a list, back at the beginning. -/
theorem rewound_of_moves (placed : (TokenStream.ofTokens tokens).Moves stream) :
    stream.rewound = .ofTokens tokens := by
  obtain ⟨run, rest, split, rfl⟩ := placed
  simp [TokenStream.rewound, TokenStream.ofTokens] at split ⊢
  exact split.symm

/-- A token behind a place in the tokens of a list is one of them. -/
theorem mem_programTokens (placed : (TokenStream.ofTokens tokens).Moves stream) :
    ∀ token ∈ stream.rest, token ∈ programTokens tokens :=
  fun _ behind => placed.suffix.subset behind

end Turning

/-- Parsing the tokens of a list from a state on goes by turns. -/
structure MovesOn (policy : RedeclarationPolicy) (tokens : List Token) (state : ParseState) :
    Prop where
  /-- The tokens of a program are cut into the segments of its turns, up to the first token that
  ends the input. -/
  program : ∃ segments statements final last,
    Turns policy (statement policy) tokens TokenStream.atEnd
      { state with stream := .ofTokens tokens, nesting := 0 } segments statements final ∧
    Parse.program policy state = .ok statements last ∧ last.stream = final.stream ∧
    segments.flatten = programTokens tokens ∧ (∀ segment ∈ segments, segment ≠ []) ∧
    final.stream.position = (programTokens tokens).length ∧
    ∃ token, (closedTokens tokens)[final.stream.position]? = some token ∧
      token.kind = .endOfInput
  /-- With any number of levels to spare, the inside of a block is parsed by turns too. -/
  blockBody : ∀ levels opening, ∃ segments children final last,
    Turns policy (statementWithin policy levels) tokens blockStops state segments children final ∧
    Parse.blockBody policy (statementWithin policy levels) opening state = .ok children last ∧
    final.stream.Moves last.stream ∧
    state.stream.rest = segments.flatten ++ final.stream.rest ∧
    ∀ segment ∈ segments, segment ≠ []

/-- **Parsing moves on**, wherever it stands in the tokens of a list. -/
theorem program_moves_on (policy : RedeclarationPolicy) {tokens : List Token}
    (spelled : ∀ token ∈ programTokens tokens, token.NamesType) {state : ParseState}
    (placed : (TokenStream.ofTokens tokens).Moves state.stream) :
    MovesOn policy tokens state := by
  constructor
  case program =>
    obtain ⟨readings, final, reads⟩ := exists_reads_of_namesType state.stream (by
      rw [rewound_of_moves placed]
      exact spelled)
    have run := program_of_reads reads policy state.nesting state.findings
    have ended := ReadsProgram.rest_eq_nil reads
    rw [ReadsProgram, rewound_of_moves placed] at reads
    have agrees : ∀ state : ParseState, state.nesting = 0 →
        declarationOrStatement policy (statement policy) state =
          declarationOrStatement policy (statementWithin policy maxNesting) state :=
      fun _ outside => item_of_outside policy outside
    obtain ⟨segments, turns, split⟩ :=
      reads.exists_turns (.refl _) stopsAtEnd_atEnd agrees state.findings
    rw [ended, List.append_nil] at split
    have size := reads.moves.position_eq
    have within := (within_ofTokens tokens).moved reads.moves
    refine ⟨segments, _, _, _, turns, run, rfl, split.symm, turns.ne_nil, ?_, final.peek, ?_, ?_⟩
    · rw [ended] at size
      simpa [TokenStream.position, TokenStream.ofTokens, programTokens] using size
    · exact getElem?_closedTokens within.getElem?_next
    · exact within.atEnd_iff.mp (by rw [TokenStream.atEnd, ended]; rfl)
  case blockBody =>
    intro levels opening
    have named : ¬ ∃ token ∈ state.stream.rest, ¬ token.NamesType := by
      rintro ⟨token, behind, misnamed⟩
      exact misnamed (spelled token (mem_programTokens placed token behind))
    obtain ⟨readings, ⟨front, rest, stop⟩, reads⟩ :=
      ((reads_or_misread levels).items stopsAtEnd_blockStops state.stream).resolve_right
        fun misread => named misread.1
    have agrees : ∀ other : ParseState, other.nesting = state.nesting →
        declarationOrStatement policy (statementWithin policy levels) other =
          declarationOrStatement policy (statementWithin policy levels) other := fun _ _ => rfl
    obtain ⟨segments, turns, split⟩ :=
      reads.exists_turns placed stopsAtEnd_blockStops agrees state.findings
    have repeats := reads.run policy stopsAtEnd_blockStops state.nesting agrees state.findings
    cases rest with
    | nil =>
        exact ⟨segments, _, _, _, turns, blockBody_unclosed repeats, .refl _, split, turns.ne_nil⟩
    | cons closing rest =>
        have isClosing : closing.kind = .operator .rightBrace := by
          simpa [blockStops, TokenStream.startsWith, TokenStream.atEnd] using reads.stopped
        exact ⟨segments, _, _, _, turns, blockBody_closed isClosing repeats, .one _ _ _ _, split,
          turns.ne_nil⟩

/-- Parsing moves on over a stray `)` and a semicolon. -/
theorem program_moves_on_strayToken :
    (∀ token ∈ programTokens [strayToken, semicolonToken], token.NamesType) ∧
      MovesOn {} [strayToken, semicolonToken] (.ofTokens [strayToken, semicolonToken]) := by
  have spelled : ∀ token ∈ programTokens [strayToken, semicolonToken], token.NamesType := by
    intro token inside
    have inside : token ∈ [strayToken, semicolonToken] := inside
    simp only [List.mem_cons, List.not_mem_nil, or_false] at inside
    rcases inside with rfl | rfl <;> exact fun isType => nomatch isType
  exact ⟨spelled, program_moves_on {} spelled (.refl _)⟩

end NumericLanguage
