import NumericLanguage.Proofs.Analysis.Safety

/-!
# Where the diagnostics of parsing stand

A rule reports at different moments: a redeclaration before the initial value is read, a name
without a declaration or a narrowing value behind the semicolon, a condition in front of the
branches, a statement that is nested too deep after it was skipped, a missing brace at the end of
the input. Each report stands at a token that the rule has come to, and none in front of an earlier
one.

The invariant ties the reports to the place in the stream. What a reading records stands at tokens
in their order, from the place where the reading begins to the place where it ends
(`Reads.anchored`); recovery only moves on from there.
-/

set_option autoImplicit false

namespace NumericLanguage

open ParseTree (settle)

/-! ## In the order of the tokens -/

/-- Diagnostics that stand at tokens of a list, in the order of the tokens, from one index to
another one. Several may stand at the same token. -/
inductive InOrder (tokens : List Token) : Nat → List Diagnostic → Nat → Prop
  | nil {low high : Nat} : low ≤ high → InOrder tokens low [] high
  | cons {low index high : Nat} {token : Token} {diagnostic : Diagnostic}
      {others : List Diagnostic} :
      low ≤ index → tokens[index]? = some token → diagnostic.location = token.location →
      InOrder tokens index others high → InOrder tokens low (diagnostic :: others) high

namespace InOrder

variable {tokens : List Token} {low middle high lower higher : Nat}
  {diagnostics others : List Diagnostic} {diagnostic : Diagnostic}

theorem le (inOrder : InOrder tokens low diagnostics high) : low ≤ high := by
  induction inOrder with
  | nil bound => exact bound
  | cons bound _ _ _ ih => exact Nat.le_trans bound ih

theorem mono (inOrder : InOrder tokens low diagnostics high) (fewer : lower ≤ low)
    (more : high ≤ higher) : InOrder tokens lower diagnostics higher := by
  induction inOrder generalizing lower with
  | nil bound => exact .nil (Nat.le_trans fewer (Nat.le_trans bound more))
  | cons bound found stands _ ih =>
      exact .cons (Nat.le_trans fewer bound) found stands (ih (Nat.le_refl _) more)

theorem append (first : InOrder tokens low diagnostics middle)
    (second : InOrder tokens middle others high) :
    InOrder tokens low (diagnostics ++ others) high := by
  induction first with
  | nil bound => exact second.mono bound (Nat.le_refl _)
  | cons bound found stands _ ih => exact .cons bound found stands (ih second)

/-- Each of the diagnostics stands at a token between the two indices. -/
theorem exists_index (inOrder : InOrder tokens low diagnostics high)
    (inside : diagnostic ∈ diagnostics) :
    ∃ index token, low ≤ index ∧ index ≤ high ∧ tokens[index]? = some token ∧
      diagnostic.location = token.location := by
  induction inOrder with
  | nil => cases inside
  | @cons low index high token first others bound found stands behind ih =>
      rcases List.mem_cons.mp inside with rfl | member
      · exact ⟨index, token, bound, behind.le, found, stands⟩
      · obtain ⟨index', token', low', high', found', stands'⟩ := ih member
        exact ⟨index', token', Nat.le_trans bound low', high', found', stands'⟩

/-- Where offsets do not decrease from token to token, they do not from diagnostic to
diagnostic. -/
theorem sorted (inOrder : InOrder tokens low diagnostics high)
    (ascending : tokens.Pairwise fun earlier later =>
      earlier.location.offset ≤ later.location.offset) :
    diagnostics.Pairwise fun earlier later =>
      earlier.location.offset ≤ later.location.offset := by
  induction inOrder with
  | nil => exact List.Pairwise.nil
  | @cons low index high token first others bound found stands behind ih =>
      refine List.Pairwise.cons (fun other member => ?_) ih
      obtain ⟨index', token', later, -, found', stands'⟩ := behind.exists_index member
      rw [stands, stands']
      obtain ⟨inside, rfl⟩ := List.getElem?_eq_some_iff.mp found
      obtain ⟨insideToo, rfl⟩ := List.getElem?_eq_some_iff.mp found'
      rcases Nat.eq_or_lt_of_le later with rfl | further
      · exact Int.le_refl _
      · exact List.pairwise_iff_getElem.mp ascending index index' inside insideToo further

end InOrder

/-! ## One report -/

namespace Findings

/-- At most one diagnostic is recorded, and it stands at a token. -/
inductive RecordsAt (token : Token) (before after : Findings) : Prop
  | nothing : after.diagnostics = before.diagnostics → RecordsAt token before after
  | one (diagnostic : Diagnostic) : diagnostic.location = token.location →
      after.diagnostics = before.diagnostics ++ [diagnostic] → RecordsAt token before after

variable (findings : Findings) (policy : RedeclarationPolicy)

theorem recordsAt_checkName (name : Token) :
    RecordsAt name findings (findings.checkName name) := by
  unfold checkName
  split
  · exact .one _ rfl rfl
  · exact .nothing rfl

theorem recordsAt_checkLeadingName (expression : List Token) (behind : Token) :
    RecordsAt (expression.head?.getD behind) findings (findings.checkLeadingName expression) := by
  unfold checkLeadingName
  split
  · split
    · exact findings.recordsAt_checkName _
    · exact .nothing rfl
  · exact .nothing rfl

theorem recordsAt_checkCondition (keyword : Token) (condition : List Token) (type : ValueType) :
    RecordsAt (condition.head?.getD keyword) findings
      (findings.checkCondition keyword condition type) := by
  unfold checkCondition
  split
  · exact .nothing rfl
  · exact .one _ rfl rfl

theorem recordsAt_checkAssignment (target : Token) (type : ValueType) :
    RecordsAt target findings (findings.checkAssignment target type) := by
  unfold checkAssignment
  split
  · exact .one _ rfl rfl
  · split
    · exact .one _ rfl rfl
    · exact .nothing rfl

theorem recordsAt_declare (type : ValueType) (line : Int) (name : Token) :
    RecordsAt name findings (findings.declare policy type line name).2 := by
  unfold declare ScopeTable.declare
  split
  · exact .nothing rfl
  · rename_i redeclaration declared
    split at declared
    · cases declared
      unfold redeclare
      cases policy.reported
      · exact .nothing rfl
      · exact .one _ rfl rfl
    · cases declared

end Findings

namespace ParseTree

open Findings (RecordsAt)

theorem recordsAt_declarationEffect (policy : RedeclarationPolicy) (typeToken name : Token)
    (type : ValueType) (initial : Option (List Token)) (findings : Findings) :
    RecordsAt name findings (declarationEffect policy typeToken name type initial findings).2 := by
  have declared := findings.recordsAt_declare policy type typeToken.location.line name
  simp only [declarationEffect]
  split
  · cases declared with
    | nothing same => exact .nothing ((Findings.diagnostics_storeInitialValue _ _ _).trans same)
    | one diagnostic stands split =>
        exact .one diagnostic stands ((Findings.diagnostics_storeInitialValue _ _ _).trans split)
  · exact declared

theorem recordsAt_expressionEffect (tokens : List Token) (semicolon : Token)
    (findings : Findings) :
    RecordsAt (tokens.head?.getD semicolon) findings
      (expressionEffect tokens semicolon findings).2 := by
  unfold expressionEffect
  split
  · rename_i target value shape
    unfold Parse.assignment? at shape
    split at shape
    · split at shape
      · cases shape
        exact findings.recordsAt_checkAssignment _ _
      · cases shape
    · cases shape
  · exact .nothing rfl

end ParseTree

/-! ## Runs of reports -/

/-- Findings whose log continues that of others with diagnostics in the order of the tokens. -/
def Findings.Anchored (tokens : List Token) (low : Nat) (before after : Findings) (high : Nat) :
    Prop :=
  ∃ added, after.diagnostics = before.diagnostics ++ added ∧ InOrder tokens low added high

namespace Findings.Anchored

variable {tokens : List Token} {low middle high lower higher index : Nat}
  {before between after : Findings} {token : Token}

theorem of_eq (same : after.diagnostics = before.diagnostics) (bound : low ≤ high) :
    Anchored tokens low before after high :=
  ⟨[], by rw [same, List.append_nil], .nil bound⟩

theorem of_recordsAt (records : RecordsAt token before after) (found : tokens[index]? = some token)
    (behind : low ≤ index) (inFront : index ≤ high) : Anchored tokens low before after high := by
  cases records with
  | nothing same => exact of_eq same (Nat.le_trans behind inFront)
  | one diagnostic stands split =>
      exact ⟨[diagnostic], split, .cons behind found stands (.nil inFront)⟩

theorem mono (anchored : Anchored tokens low before after high) (fewer : lower ≤ low)
    (more : high ≤ higher) : Anchored tokens lower before after higher := by
  obtain ⟨added, split, inOrder⟩ := anchored
  exact ⟨added, split, inOrder.mono fewer more⟩

theorem trans (first : Anchored tokens low before between middle)
    (second : Anchored tokens middle between after high) :
    Anchored tokens low before after high := by
  obtain ⟨added, split, inOrder⟩ := first
  obtain ⟨more, again, inOrderToo⟩ := second
  exact ⟨added ++ more, by rw [again, split, List.append_assoc], inOrder.append inOrderToo⟩

theorem congr {other : Findings} (anchored : Anchored tokens low before after high)
    (same : other.diagnostics = after.diagnostics) : Anchored tokens low before other high := by
  obtain ⟨added, split, inOrder⟩ := anchored
  exact ⟨added, same.trans split, inOrder⟩

end Findings.Anchored

/-! ## Readings -/

/-- A token ahead of a place stands at its index. -/
theorem Within.getElem?_ahead {tokens : List Token} {place : TokenStream} {token : Token}
    (within : Within tokens place) (count : Nat) (ahead : place.rest[count]? = some token) :
    tokens[place.position + count]? = some token := by
  obtain ⟨inside, rfl⟩ := List.getElem?_eq_some_iff.mp ahead
  rw [← within.whole, List.getElem?_append_right (by simp [TokenStream.position]),
    List.length_reverse, TokenStream.position, Nat.add_sub_cancel_left,
    List.getElem?_append_left inside, ahead]

/-- What becomes of the record of a statement does not matter to the findings behind it. -/
theorem ParseTree.settle_map (change : Statement → Statement)
    (outcome : Except Rejection Statement × Findings) :
    settle (outcome.1.map change, outcome.2) = settle outcome := by
  obtain ⟨result, findings⟩ := outcome
  cases result <;> rfl

/-- Behind a statement that is not abandoned nothing is added. -/
theorem ParseTree.settle_of_complete (policy : RedeclarationPolicy) {reading : ParseTree}
    (complete : reading.rejection? = none) (findings : Findings) :
    settle (reading.effect policy findings) = (reading.effect policy findings).2 := by
  obtain ⟨statement, same⟩ := ParseTree.exists_of_complete policy complete findings
  rw [settle, same]

/-- An alternative is only read behind a consequence that is not abandoned. -/
theorem ParseTree.settle_ifThenElse (policy : RedeclarationPolicy) (keyword : Token)
    (condition : List Token) {consequence : ParseTree} (alternative : ParseTree)
    (complete : consequence.rejection? = none) (findings : Findings) :
    settle ((ParseTree.ifThenElse keyword condition consequence alternative).effect policy
        findings) =
      settle (alternative.effect policy (settle (consequence.effect policy
        (findings.checkCondition keyword condition (findings.table.infer condition))))) := by
  obtain ⟨statement, same⟩ := ParseTree.exists_of_complete policy complete
    (findings.checkCondition keyword condition (findings.table.infer condition))
  rw [settle_of_complete policy complete, ParseTree.effect, same]
  exact settle_map _ _

section Readings

open Findings TokenStream

variable {tokens : List Token} {place final : TokenStream}

/-- A token that is asked for is missed where the next one stands. -/
theorem Fails.anchored {demands : List Demand} {rejection : Rejection} {low : Nat}
    (fails : Fails demands place rejection final) (within : Within tokens place)
    (bound : low ≤ place.position) (findings : Findings) :
    Anchored tokens low findings (findings.record rejection.diagnostic) final.position := by
  obtain ⟨kind, context, rfl, -⟩ := fails.exists_expected
  exact .of_recordsAt (.one _ rfl rfl) (within.moved fails.moves).getElem?_next
    (Nat.le_trans bound fails.moves.position_le) (Nat.le_refl _)

/-- The condition of a statement is behind a keyword and a parenthesis, and in front of another
one. -/
theorem TokenStream.Moves.condition (front condition rest : List Token)
    (keyword opening closing stop : Token) :
    Moves ⟨front, keyword :: opening :: (condition ++ closing :: rest), stop⟩
      ⟨closing :: (condition.reverse ++ opening :: keyword :: front), rest, stop⟩ :=
  ⟨keyword :: opening :: (condition ++ [closing]), rest, by simp, by simp⟩

theorem anchored_checkCondition {front condition rest : List Token} {keyword opening stop : Token}
    (within : Within tokens ⟨front, keyword :: opening :: (condition ++ rest), stop⟩)
    (findings : Findings) (type : ValueType) :
    Anchored tokens front.length findings (findings.checkCondition keyword condition type)
      (front.length + condition.length + 2) := by
  have records := findings.recordsAt_checkCondition keyword condition type
  cases condition with
  | nil => exact .of_recordsAt records within.getElem?_next (Nat.le_refl _) (by simp [position])
  | cons first others =>
      exact .of_recordsAt records (within.getElem?_ahead 2 rfl) (Nat.le_add_right _ _)
        (by simp only [position, List.length_cons]; omega)

/-- A brace is missed where the input ends. -/
theorem anchored_close (within : Within tokens place) (opening : Token) (findings : Findings) :
    Anchored tokens place.position findings
      (ParseTree.close opening (some place.peek) findings) place.position :=
  .of_recordsAt (.one _ rfl rfl) within.getElem?_next (Nat.le_refl _) (Nat.le_refl _)

variable (policy : RedeclarationPolicy)

theorem anchored_declarationEffect {front rest : List Token} {typeToken name stop : Token}
    (within : Within tokens ⟨front, typeToken :: name :: rest, stop⟩) (type : ValueType)
    (initial : Option (List Token)) (findings : Findings) :
    Anchored tokens front.length findings
      (ParseTree.declarationEffect policy typeToken name type initial findings).2
      (front.length + 2) :=
  .of_recordsAt (ParseTree.recordsAt_declarationEffect policy typeToken name type initial findings)
    (within.getElem?_ahead 1 rfl) (Nat.le_add_right _ _) (Nat.le_succ _)

mutual
/-- **What a reading records stands at its tokens, in their order**, the rejection of an abandoned
statement included. -/
theorem Reads.anchored : ∀ {levels : Nat} {place final : TokenStream} {reading : ParseTree},
    Reads levels place reading final → Within tokens place → ∀ findings : Findings,
    Anchored tokens place.position findings (settle (reading.effect policy findings))
      final.position
  | _, _, _, _, .tooDeep, within, findings =>
      .of_recordsAt (.one _ rfl rfl) within.getElem?_next (Nat.le_refl _)
        (Moves.moveOver _ _).position_le
  | _, _, _, _, .read .., within, findings => by
      refine .of_recordsAt (findings.recordsAt_checkName _)
        (within.getElem?_ahead 2 rfl) (Nat.le_add_right _ _) ?_
      simp only [position, List.length_cons]
      omega
  | _, _, _, _, @Reads.write _ front expression rest keyword opening closing semicolon .., within,
      findings => by
      refine .of_recordsAt (findings.recordsAt_checkLeadingName expression closing)
        (within.getElem?_ahead 2 ?_) (Nat.le_add_right _ _) ?_
      · cases expression <;> rfl
      · simp only [position, List.length_cons, List.length_append, List.length_reverse]
        omega
  | _, _, _, _, .ifThen _ _ _ _ _ consequence _, within, findings => by
      have checked := anchored_checkCondition within findings
      have inside := consequence.anchored (within.moved ((Moves.condition ..).trans (.one ..)))
      rw [ParseTree.effect, ParseTree.settle_map]
      refine (checked _).trans ((inside _).mono ?_ (Nat.le_refl _))
      simp only [position, List.length_cons, List.length_append, List.length_reverse]
      omega
  | _, _, _, _, .ifThenElse _ _ _ _ _ consequence complete _ alternative, within, findings => by
      have checked := anchored_checkCondition within findings
      have atBody := within.moved ((Moves.condition ..).trans (.one ..))
      have first := consequence.anchored atBody
      have second := alternative.anchored (atBody.moved (consequence.moves.trans (.one ..)))
      rw [ParseTree.settle_ifThenElse policy _ _ _ complete]
      refine ((checked _).trans ((first _).mono ?_ (Nat.le_succ _))).trans (second _)
      simp only [position, List.length_cons, List.length_append, List.length_reverse]
      omega
  | _, _, _, _, .loop _ _ _ _ block, within, findings => by
      have inside := block.anchored (within.moved (Moves.condition ..)) findings
      rw [ParseTree.effect, ParseTree.settle_map]
      exact inside.mono (Moves.condition ..).position_le (Nat.le_refl _)
  | _, _, _, _, .block block, within, findings => block.anchored within findings
  | _, _, _, _, @Reads.expression _ _ tokens rest semicolon _ .., within, findings => by
      refine .of_recordsAt (ParseTree.recordsAt_expressionEffect tokens semicolon findings)
        (within.getElem?_ahead 0 ?_) (Nat.le_refl _) ?_
      · cases tokens <;> rfl
      · simp only [position, List.length_cons, List.length_append, List.length_reverse]
        omega
  | _, _, _, _, .keywordFails _ fails, within, findings =>
      fails.anchored (within.moved (.one _ _ _ _)) (Nat.le_succ _) findings
  | _, _, _, _, .expressionFails _ fails, within, findings =>
      fails.anchored within (Nat.le_refl _) findings

theorem ReadsBlock.anchored : ∀ {levels : Nat} {place final : TokenStream} {reading : ParseTree},
    ReadsBlock levels place reading final → Within tokens place → ∀ findings : Findings,
    Anchored tokens place.position findings (settle (reading.effect policy findings))
      final.position
  | _, _, _, _, .closed _ items _, within, findings =>
      ((items.anchored (within.moved (.one ..)) findings.enter).mono (Nat.le_succ _)
        (Nat.le_succ _)).congr (diagnostics_leave _)
  | _, _, _, _, .unclosed _ items, within, findings => by
      have atBody := within.moved (.one ..)
      have inside := items.anchored atBody findings.enter
      have missing := anchored_close (atBody.moved items.moves)
      exact ((inside.trans (missing _ _)).mono (Nat.le_succ _) (Nat.le_refl _)).congr
        (diagnostics_leave _)

theorem ReadsItem.anchored : ∀ {levels : Nat} {place final : TokenStream} {reading : ParseTree},
    ReadsItem levels place reading final → Within tokens place → ∀ findings : Findings,
    Anchored tokens place.position findings (settle (reading.effect policy findings))
      final.position
  | _, _, _, _, .declaration .., within, findings =>
      (anchored_declarationEffect policy within _ _ findings).mono (Nat.le_refl _) (Nat.le_succ _)
  | _, _, _, _, .initialized .., within, findings => by
      refine (anchored_declarationEffect policy within _ _ findings).mono (Nat.le_refl _) ?_
      simp only [position, List.length_cons, List.length_append, List.length_reverse]
      omega
  | _, _, _, _, .nameless _ _ fails, within, findings =>
      fails.anchored (within.moved (.one _ _ _ _)) (Nat.le_succ _) findings
  | _, _, _, _, .unended _ _ _ _ fails, within, findings =>
      (anchored_declarationEffect policy within _ _ findings).trans
        (fails.anchored (within.moved ⟨[_, _], _, rfl, rfl⟩) (Nat.le_refl _) _)
  | _, _, _, _, .unendedInitial _ _ _ _ fails, within, findings =>
      (anchored_declarationEffect policy within _ _ findings).trans
        (fails.anchored (within.moved ⟨[_, _, _], _, rfl, rfl⟩) (Nat.le_succ _) _)
  | _, _, _, _, .statement _ statement, within, findings => statement.anchored within findings

theorem ReadsItems.anchored : ∀ {stops : TokenStream → Bool} {levels : Nat}
    {place final : TokenStream} {readings : List ParseTree},
    ReadsItems stops levels place readings final → Within tokens place → ∀ findings : Findings,
    Anchored tokens place.position findings (ParseTree.effectAll policy readings findings).2
      final.position
  | _, _, _, _, _, .done _, _, _ => .of_eq rfl (Nat.le_refl _)
  | _, _, _, _, _, .next _ item others, within, findings =>
      ((item.anchored within findings).mono (Nat.le_refl _)
        (moves_recovered _ _ _).position_le).trans
          (others.anchored (within.moved (item.moves.trans (moves_recovered _ _ _))) _)
end

end Readings

end NumericLanguage
