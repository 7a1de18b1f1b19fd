import Mathlib.Order.Bounds.Defs
import NumericLanguage.Proofs.Analysis.Safety

/-!
# Where a captured expression ends

An expression is captured token by token, and the parentheses that are open are counted on the way.
The count decides only at a sign that ends expressions: if no parenthesis is open in front of it,
the capture stops there. What is captured is then the shortest run up to such a sign in front of
which as many parentheses are closed as opened, or up to the end of the input
(`capture_shortestRun`).

The argument follows the count. Behind a beginning of what is captured the capture goes on with the
count behind that beginning (`captured_append_of_begins`). A closing parenthesis is gone over only
with one open, so the count is what has been opened less what has been closed, and at no place less
than nothing (`depthBehindRun_add_closedParens`).
-/

set_option autoImplicit false

namespace NumericLanguage

/-! ## The count along a capture -/

/-- The count of open parentheses behind a run, kept token by token as a capture keeps it, given
the count in front of it. -/
def depthBehindRun (depth : Nat) (run : List Token) : Nat :=
  run.foldl (fun depth token => depthBehind depth token.kind) depth

section Captures

variable {depth : Nat} {run rest tokens : List Token} {token : Token}

/-- If a token is captured, the capture goes on there, and behind it with the count behind it. -/
theorem goesOn_of_begins (inFront : token :: run <+: captured depth (token :: tokens)) :
    ¬ (depth = 0 ∧ token.kind.endsExpression = true) ∧
      run <+: captured (depthBehind depth token.kind) tokens := by
  rw [captured] at inFront
  by_cases ends : depth = 0 ∧ token.kind.endsExpression = true
  · rw [if_pos ends] at inFront
    cases List.prefix_nil.mp inFront
  · rw [if_neg ends] at inFront
    exact ⟨ends, (List.cons_prefix_cons.mp inFront).2⟩

/-- Behind a beginning of what is captured, the capture goes on with the count behind it. -/
theorem captured_append_of_begins (inFront : run <+: captured depth (run ++ rest)) :
    captured depth (run ++ rest) = run ++ captured (depthBehindRun depth run) rest := by
  induction run generalizing depth with
  | nil => rfl
  | cons token run ih =>
      obtain ⟨goesOn, others⟩ := goesOn_of_begins inFront
      rw [List.cons_append, captured, if_neg goesOn, ih others]
      rfl

/-- Along every beginning of what is captured, the count is what has been opened less what has been
closed. -/
theorem depthBehindRun_add_closedParens (inFront : run <+: captured depth (run ++ rest)) :
    depthBehindRun depth run + closedParens run = depth + openedParens run := by
  induction run generalizing depth with
  | nil => rfl
  | cons token run ih =>
      obtain ⟨goesOn, others⟩ := goesOn_of_begins inFront
      have one := depthBehind_add_closedParens goesOn
      have more := ih others
      have counted : depthBehindRun depth (token :: run) =
          depthBehindRun (depthBehind depth token.kind) run := rfl
      have closes : closedParens (token :: run) = _ := closedParens_append [token] run
      have opens : openedParens (token :: run) = _ := openedParens_append [token] run
      omega

/-- A capture stops at once in front of a sign that ends expressions with no parenthesis open. -/
theorem captured_cons_eq_nil_iff :
    captured depth (token :: rest) = [] ↔ depth = 0 ∧ token.kind.endsExpression = true := by
  rw [captured]
  by_cases ends : depth = 0 ∧ token.kind.endsExpression = true
  · rw [if_pos ends]
    exact iff_of_true rfl ends
  · rw [if_neg ends]
    exact iff_of_false (List.cons_ne_nil _ _) ends

/-- A capture stops behind one of its beginnings if, and only if, a sign that ends expressions comes
next and the beginning opens as many parentheses as it closes. -/
theorem captured_eq_iff_of_begins (inFront : run <+: captured 0 (run ++ token :: rest)) :
    captured 0 (run ++ token :: rest) = run ↔
      token.kind.endsExpression = true ∧ openedParens run = closedParens run := by
  have counted := depthBehindRun_add_closedParens inFront
  rw [captured_append_of_begins inFront, List.append_right_eq_self, captured_cons_eq_nil_iff]
  constructor
  · rintro ⟨outside, ends⟩
    exact ⟨ends, by omega⟩
  · rintro ⟨ends, same⟩
    exact ⟨by omega, ends⟩

end Captures

/-! ## The first end of an expression -/

/-- An index at which an expression that begins at another one may end: the input ends there, or a
sign that ends expressions stands there and the tokens in between open as many parentheses as they
close. -/
def ExpressionEndsAt (tokens : List Token) (start index : Nat) : Prop :=
  ∃ token ∈ tokens[index]?, token.kind = .endOfInput ∨
    token.kind.endsExpression = true ∧
      openedParens (tokens.extract start index) = closedParens (tokens.extract start index)

instance (tokens : List Token) (start index : Nat) :
    Decidable (ExpressionEndsAt tokens start index) :=
  inferInstanceAs (Decidable (∃ token ∈ tokens[index]?, _))

/-- The tokens from an index up to another one are the shortest run up to the end of an
expression. -/
structure ShortestRun (tokens : List Token) (start stop : Nat) : Prop where
  least : IsLeast {index | start ≤ index ∧ ExpressionEndsAt tokens start index} stop
  /-- No beginning closes more parentheses than it opens, and the count behind it is the
  difference. -/
  counted : ∀ run, run <+: tokens.extract start stop →
    closedParens run ≤ openedParens run ∧
      (depthBehindRun 0 run : Int) = openedParens run - closedParens run
  balanced : ∀ token, tokens[stop]? = some token → token.kind ≠ .endOfInput →
    Balanced (tokens.extract start stop)

/-- Where an expression may end is seen in the tokens from where it begins. -/
theorem expressionEndsAt_append (front behind : List Token) (offset : Nat) :
    ExpressionEndsAt (front ++ behind) front.length (front.length + offset) ↔
      ∃ token ∈ behind[offset]?, token.kind = .endOfInput ∨
        token.kind.endsExpression = true ∧
          openedParens (behind.take offset) = closedParens (behind.take offset) := by
  unfold ExpressionEndsAt
  rw [List.getElem?_append_right (Nat.le_add_right _ _), Nat.add_sub_cancel_left,
    List.extract_eq_take_drop, List.drop_left, Nat.add_sub_cancel_left]

section Runs

variable {run others : List Token} {stop : Token}

/-- An expression ends behind what is captured in front of the end of the input. -/
theorem exists_end_of_captured (more : List Token) (whole : captured 0 (run ++ others) = run)
    (ends : stop.kind = .endOfInput) :
    ∃ token ∈ (run ++ others ++ stop :: more)[run.length]?, token.kind = .endOfInput ∨
      token.kind.endsExpression = true ∧ openedParens run = closedParens run := by
  cases others with
  | nil => exact ⟨stop, by simp, .inl ends⟩
  | cons token others =>
      have inFront : run <+: captured 0 (run ++ token :: others) :=
        ⟨[], (List.append_nil run).trans whole.symm⟩
      exact ⟨token, by simp, .inr ((captured_eq_iff_of_begins inFront).mp whole)⟩

/-- No expression ends inside what is captured. -/
theorem not_ends_of_captured {offset : Nat} {token : Token}
    (whole : captured 0 (run ++ others) = run) (found : run[offset]? = some token) :
    ¬ (token.kind.endsExpression = true ∧
      openedParens (run.take offset) = closedParens (run.take offset)) := by
  intro ends
  obtain ⟨inside, rfl⟩ := List.getElem?_eq_some_iff.mp found
  have split : run ++ others =
      run.take offset ++ run[offset] :: (run.drop (offset + 1) ++ others) := by
    rw [← List.cons_append, ← List.drop_eq_getElem_cons inside, ← List.append_assoc,
      List.take_append_drop]
  rw [split] at whole
  have inFront : run.take offset <+: captured 0
      (run.take offset ++ run[offset] :: (run.drop (offset + 1) ++ others)) := by
    rw [whole]
    exact List.take_prefix _ _
  have stopped := (captured_eq_iff_of_begins inFront).mpr ends
  have shorter := congrArg List.length (stopped.symm.trans whole)
  rw [List.length_take] at shorter
  omega

/-- A capture takes the tokens from where it begins up to where it ends. -/
theorem extract_captured (front rest behind : List Token) :
    (front ++ (rest ++ behind)).extract front.length
      (front.length + (captured 0 rest).length) = captured 0 rest := by
  have inFront := captured_prefix 0 rest
  rw [List.extract_eq_take_drop, List.drop_left, Nat.add_sub_cancel_left,
    List.take_append_of_le_length inFront.length_le]
  exact (List.prefix_iff_eq_take.mp inFront).symm

/-- What is captured in front of the end of the input is the shortest run up to the end of an
expression. -/
theorem shortestRun_captured (front more : List Token) {rest : List Token}
    (inside : ∀ token ∈ rest, token.kind ≠ .endOfInput) (ends : stop.kind = .endOfInput) :
    ShortestRun (front ++ (rest ++ stop :: more)) front.length
      (front.length + (captured 0 rest).length) := by
  have taken := extract_captured front rest (stop :: more)
  obtain ⟨others, split⟩ := captured_prefix 0 rest
  generalize whole : captured 0 rest = run at split taken
  subst split
  constructor
  case least =>
    refine ⟨⟨Nat.le_add_right _ _, ?_⟩, ?_⟩
    · rw [expressionEndsAt_append, List.append_assoc, List.take_left, ← List.append_assoc]
      exact exists_end_of_captured more whole ends
    · -- At an index in front of its end, an end would lie inside the run.
      rintro index ⟨behind, stops⟩
      obtain ⟨offset, rfl⟩ := Nat.exists_eq_add_of_le behind
      refine Nat.add_le_add_left (Nat.le_of_not_lt fun early => ?_) _
      obtain ⟨token, found, reason⟩ := (expressionEndsAt_append _ _ _).mp stops
      rw [List.append_assoc, List.getElem?_append_left early] at found
      rw [List.append_assoc, List.take_append_of_le_length (Nat.le_of_lt early)] at reason
      rcases reason with ended | stopped
      · exact inside token (List.mem_append_left _ (List.mem_of_getElem? found)) ended
      · exact not_ends_of_captured whole found stopped
  case counted =>
    intro beginning inFront
    rw [taken] at inFront
    obtain ⟨later, rfl⟩ := inFront
    rw [List.append_assoc] at whole
    have counted := depthBehindRun_add_closedParens (whole ▸ List.prefix_append beginning later)
    omega
  case balanced =>
    intro token found goesOn
    rw [taken]
    cases others with
    | nil =>
        have same : stop = token := by simpa using found
        exact absurd (same ▸ ends) goesOn
    | cons next others => exact (isExpression_of_captured whole).balanced

end Runs

/-! ## Captures by index -/

/-- The first token that ends the input stands right behind the tokens of the program. -/
theorem findIdx_closedTokens (tokens : List Token) :
    (closedTokens tokens).findIdx Token.isEnd = (programTokens tokens).length := by
  obtain ⟨more, closed⟩ := exists_closedTokens_eq tokens
  have within := within_ofTokens tokens
  have goesOn : ∀ token ∈ programTokens tokens, token.isEnd = false := by
    intro token inside
    simpa [Token.isEnd] using within.inside token inside
  have ends : (TokenStream.ofTokens tokens).stop.isEnd = true := by
    simpa [Token.isEnd] using within.stop
  rw [closed, List.append_assoc, List.findIdx_append, List.findIdx_eq_length_of_false goesOn,
    if_neg (Nat.lt_irrefl _), List.singleton_append, List.findIdx_cons, ends, cond_true,
    Nat.zero_add]

/-- Moved to an index that is not behind the end of the input, a stream is at that index. -/
theorem position_moveOver_ofTokens {tokens : List Token} {index : Nat}
    (inFront : index ≤ (programTokens tokens).length) :
    ((TokenStream.ofTokens tokens).moveOver index).position = index := by
  have size : (TokenStream.ofTokens tokens).rest.length = (programTokens tokens).length := rfl
  simp only [TokenStream.moveOver, TokenStream.position, List.length_append, List.length_reverse,
    List.length_take, size, Nat.min_eq_left inFront]
  rfl

/-- **An expression takes the shortest run.** A capture that begins at any token of a list, the
first one that ends the input included, gives the tokens from there up to the first index at which an
expression may end, moves to that index, and changes nothing else. -/
theorem capture_shortestRun (tokens : List Token) (state : ParseState) {start : Nat}
    (inFront : start ≤ (closedTokens tokens).findIdx Token.isEnd) :
    ∃ stop,
      Parse.capture { state with stream := (TokenStream.ofTokens tokens).moveOver start } =
        .ok ((closedTokens tokens).extract start stop)
          { state with stream := (TokenStream.ofTokens tokens).moveOver stop } ∧
      ((TokenStream.ofTokens tokens).moveOver stop).position = stop ∧
      ShortestRun (closedTokens tokens) start stop := by
  rw [findIdx_closedTokens] at inFront
  obtain ⟨more, closed⟩ := exists_closedTokens_eq tokens
  have within := (within_ofTokens tokens).moved (.moveOver _ start)
  have begins : ((TokenStream.ofTokens tokens).moveOver start).consumed.reverse.length = start :=
    List.length_reverse.trans (position_moveOver_ofTokens inFront)
  have left : ((TokenStream.ofTokens tokens).moveOver start).rest.length =
      (programTokens tokens).length - start := List.length_drop
  generalize same : (TokenStream.ofTokens tokens).moveOver start = place at within begins left
  have split : closedTokens tokens =
      place.consumed.reverse ++ (place.rest ++ place.stop :: more) := by
    rw [closed, ← within.whole]
    simp
  refine ⟨start + (captured 0 place.rest).length, ?_, ?_, ?_⟩
  · have taken := extract_captured place.consumed.reverse place.rest (place.stop :: more)
    rw [← split, begins] at taken
    rw [taken, ← TokenStream.moveOver_moveOver, same]
    rfl
  · -- A stream cannot move past the end of the input, and here it does not try to.
    refine position_moveOver_ofTokens ?_
    have fewer := List.IsPrefix.length_le <| captured_prefix 0 place.rest
    omega
  · have shortest := shortestRun_captured place.consumed.reverse more within.inside within.stop
    rwa [← split, begins] at shortest

/-- The tokens of `write((a; b));`. -/
def groupTokens : List Token :=
  [⟨.keyword .writeWord, "write", none, ⟨"<string>", 1, 1, 0⟩⟩,
    ⟨.operator .leftParen, "(", none, ⟨"<string>", 1, 6, 5⟩⟩,
    ⟨.operator .leftParen, "(", none, ⟨"<string>", 1, 7, 6⟩⟩,
    ⟨.identifier, "a", some (.text "a"), ⟨"<string>", 1, 8, 7⟩⟩,
    ⟨.operator .semicolon, ";", none, ⟨"<string>", 1, 9, 8⟩⟩,
    ⟨.identifier, "b", some (.text "b"), ⟨"<string>", 1, 11, 10⟩⟩,
    ⟨.operator .rightParen, ")", none, ⟨"<string>", 1, 12, 11⟩⟩,
    ⟨.operator .rightParen, ")", none, ⟨"<string>", 1, 13, 12⟩⟩,
    ⟨.operator .semicolon, ";", none, ⟨"<string>", 1, 14, 13⟩⟩]

/-- Behind `write(`, what is captured is `(a; b)`. It does not end at the semicolon in it, in front
of which a parenthesis is open. -/
theorem capture_shortestRun_group :
    2 ≤ (closedTokens groupTokens).findIdx Token.isEnd ∧
      Parse.capture ⟨(TokenStream.ofTokens groupTokens).moveOver 2, 0, .empty, [], []⟩ =
        .ok ((closedTokens groupTokens).extract 2 7)
          ⟨(TokenStream.ofTokens groupTokens).moveOver 7, 0, .empty, [], []⟩ ∧
      ShortestRun (closedTokens groupTokens) 2 7 ∧
      ¬ ExpressionEndsAt (closedTokens groupTokens) 2 4 := by
  have inFront : 2 ≤ (closedTokens groupTokens).findIdx Token.isEnd := by decide
  have captures :
      Parse.capture ⟨(TokenStream.ofTokens groupTokens).moveOver 2, 0, .empty, [], []⟩ =
        .ok ((closedTokens groupTokens).extract 2 7)
          ⟨(TokenStream.ofTokens groupTokens).moveOver 7, 0, .empty, [], []⟩ := rfl
  obtain ⟨stop, run, position, shortest⟩ :=
    capture_shortestRun groupTokens ⟨.ofTokens groupTokens, 0, .empty, [], []⟩ inFront
  obtain ⟨-, ends⟩ := EStateM.Result.ok.inj (captures.symm.trans run)
  have reached : 7 = stop := (congrArg (·.stream.position) ends).trans position
  exact ⟨inFront, captures, reached ▸ shortest, by decide⟩

end NumericLanguage
