import Mathlib.Data.List.Infix
import NumericLanguage.Proofs.Recovery.Brackets

/-!
# Braces along a skip

Behind its first opening brace a skip counts the braces that are open, wherever they stand, and it
ends with the one that closes the last of them. It goes over a run that closes all of them at no
place (`StaysWithin`), and on with those that the run leaves open (`StaysWithin.skipped_append`).
Every other run has a first place where all are closed (`exists_closing_of_not_staysWithin`), and
the skip ends there. A run behind which the same braces are open as in front of it
(`SettlesWithin`) does not change where a skip ends.
-/

set_option autoImplicit false

namespace NumericLanguage

variable {depth after : Nat} {run more rest : List Token} {token opening closing : Token}

/-! ## Runs inside of braces -/

/-- A run inside of some open braces: no beginning of it closes all of them. -/
def StaysWithin (depth : Nat) (run : List Token) : Prop :=
  ∀ front, front <+: run → closedBraces front < openedBraces front + depth

/-- A run inside of some open braces, behind which as many are open as in front of it. -/
structure SettlesWithin (depth : Nat) (run : List Token) : Prop where
  within : StaysWithin depth run
  settled : closedBraces run = openedBraces run

instance (depth : Nat) (run : List Token) : Decidable (SettlesWithin depth run) :=
  decidable_of_iff ((∀ front ∈ run.inits, closedBraces front < openedBraces front + depth) ∧
      closedBraces run = openedBraces run)
    ⟨fun ⟨within, settled⟩ => ⟨fun front inFront => within front ((List.mem_inits _ _).mpr inFront),
        settled⟩,
      fun settles => ⟨fun front inFront => settles.within front ((List.mem_inits _ _).mp inFront),
        settles.settled⟩⟩

theorem StaysWithin.pos (stays : StaysWithin depth run) : 0 < depth :=
  Nat.lt_of_lt_of_eq (stays [] List.nil_prefix) (Nat.zero_add depth)

theorem staysWithin_nil (positive : 0 < depth) : StaysWithin depth [] := by
  intro front inFront
  rw [List.prefix_nil.mp inFront]
  exact Nat.lt_of_lt_of_eq positive (Nat.zero_add depth).symm

/-- A run stays inside of some braces if the tokens behind its first one stay inside of those that
are open behind that one. -/
theorem staysWithin_cons_iff
    (counts : after + closedBraces [token] = depth + openedBraces [token]) :
    StaysWithin depth (token :: run) ↔ 0 < depth ∧ StaysWithin after run := by
  constructor
  · intro stays
    refine ⟨stays.pos, fun front inFront => ?_⟩
    have behind := stays (token :: front) (List.cons_prefix_cons.mpr ⟨rfl, inFront⟩)
    rw [openedBraces_cons, closedBraces_cons] at behind
    omega
  · rintro ⟨positive, stays⟩ front inFront
    rcases List.prefix_cons_iff.mp inFront with rfl | ⟨others, rfl, inOthers⟩
    · exact staysWithin_nil positive [] (List.prefix_refl [])
    · have behind := stays others inOthers
      rw [openedBraces_cons, closedBraces_cons]
      omega

/-- The braces that are open behind the first token of a run that stays inside of some. -/
theorem StaysWithin.exists_after (stays : StaysWithin depth (token :: run)) :
    ∃ after, after + closedBraces [token] = depth + openedBraces [token] ∧
      StaysWithin after run := by
  have first := stays [token] (List.prefix_append [token] run)
  have enough : closedBraces [token] ≤ depth + openedBraces [token] := by omega
  have counts := Nat.sub_add_cancel enough
  exact ⟨_, counts, ((staysWithin_cons_iff counts).mp stays).2⟩

/-- What stays inside of the braces that are open behind a run may follow it. -/
theorem StaysWithin.append (first : StaysWithin depth run)
    (counts : after + closedBraces run = depth + openedBraces run)
    (second : StaysWithin after more) : StaysWithin depth (run ++ more) := by
  intro front inFront
  rcases List.prefix_or_prefix_of_prefix inFront (List.prefix_append run more) with
    early | ⟨others, rfl⟩
  · exact first front early
  · have behind := second others ((List.prefix_append_right_inj run).mp inFront)
    rw [openedBraces_append, closedBraces_append]
    omega

/-- A run that does not stay inside of some braces has a first place where it closes the last of
them. -/
theorem exists_closing_of_not_staysWithin (positive : 0 < depth)
    (leaves : ¬ StaysWithin depth run) :
    ∃ front closing behind, run = front ++ closing :: behind ∧ StaysWithin depth front ∧
      closing.kind = .operator .rightBrace ∧
      closedBraces front + 1 = openedBraces front + depth := by
  induction run generalizing depth with
  | nil => exact absurd (staysWithin_nil positive) leaves
  | cons token run ih =>
      by_cases last : token.kind = .operator .rightBrace ∧ depth = 1
      · exact ⟨[], token, run, rfl, staysWithin_nil positive, last.1, by rw [last.2]; rfl⟩
      obtain ⟨after, counts, positiveToo⟩ :
          ∃ after, after + closedBraces [token] = depth + openedBraces [token] ∧ 0 < after := by
        refine ⟨depth + openedBraces [token] - closedBraces [token], ?_⟩
        rcases braces_of_token token with ⟨-, opens, closes⟩ | ⟨isClosing, opens, closes⟩ |
          ⟨-, -, opens, closes⟩
        · omega
        · have notLast : depth ≠ 1 := fun same => last ⟨isClosing, same⟩
          omega
        · omega
      obtain ⟨front, closing, behind, rfl, stays, isClosing, same⟩ := ih positiveToo fun stays =>
        leaves ((staysWithin_cons_iff counts).mpr ⟨positive, stays⟩)
      refine ⟨token :: front, closing, behind, rfl,
        (staysWithin_cons_iff counts).mpr ⟨positive, stays⟩, isClosing, ?_⟩
      rw [openedBraces_cons, closedBraces_cons]
      omega

namespace SettlesWithin

theorem nil (positive : 0 < depth) : SettlesWithin depth [] := ⟨staysWithin_nil positive, rfl⟩

/-- A token that is no brace in front of a run. -/
theorem plain (notLeft : token.kind ≠ .operator .leftBrace)
    (notRight : token.kind ≠ .operator .rightBrace) (others : SettlesWithin depth run) :
    SettlesWithin depth (token :: run) := by
  obtain ⟨isOpening, -⟩ | ⟨isClosing, -⟩ | ⟨-, -, opens, closes⟩ := braces_of_token token
  · exact absurd isOpening notLeft
  · exact absurd isClosing notRight
  · refine ⟨(staysWithin_cons_iff (by rw [opens, closes])).mpr
      ⟨others.within.pos, others.within⟩, ?_⟩
    rw [openedBraces_cons, closedBraces_cons, opens, closes, others.settled]

theorem append (first : SettlesWithin depth run) (second : SettlesWithin depth more) :
    SettlesWithin depth (run ++ more) where
  within := first.within.append (by rw [first.settled]) second.within
  settled := by rw [openedBraces_append, closedBraces_append, first.settled, second.settled]

/-- A pair of braces around a run. -/
theorem braces (inside : SettlesWithin (depth + 1) run) (positive : 0 < depth)
    (isOpening : opening.kind = .operator .leftBrace)
    (isClosing : closing.kind = .operator .rightBrace) :
    SettlesWithin depth (opening :: (run ++ [closing])) := by
  have opens : openedBraces [opening] = 1 := by simp [openedBraces, isOpening]
  have opensOnly : closedBraces [opening] = 0 := by simp [closedBraces, isOpening]
  have closes : closedBraces [closing] = 1 := by simp [closedBraces, isClosing]
  have closesOnly : openedBraces [closing] = 0 := by simp [openedBraces, isClosing]
  have last : StaysWithin (depth + 1) [closing] :=
    (staysWithin_cons_iff (by rw [closes, closesOnly])).mpr
      ⟨Nat.succ_pos depth, staysWithin_nil positive⟩
  refine ⟨(staysWithin_cons_iff (by rw [opens, opensOnly])).mpr
    ⟨positive, inside.within.append (by rw [inside.settled]) last⟩, ?_⟩
  rw [openedBraces_cons, closedBraces_cons, openedBraces_append, closedBraces_append,
    inside.settled, opens, opensOnly, closes, closesOnly]
  omega

end SettlesWithin

/-! ## Where a skip ends -/

/-- A skip goes over a token that does not close the last of the braces. -/
theorem skipped_cons (inside : 0 < depth) (open_ : 0 < after)
    (counts : after + closedBraces [token] = depth + openedBraces [token]) (rest : List Token) :
    skipped depth (token :: rest) = token :: skipped after rest := by
  obtain ⟨outer, rfl⟩ := Nat.exists_eq_add_one.mpr inside
  rcases braces_of_token token with ⟨isOpening, opens, closes⟩ | ⟨isClosing, opens, closes⟩ |
    ⟨notOpening, notClosing, opens, closes⟩
  · obtain rfl : after = outer + 2 := by omega
    rw [skipped, if_neg (by simp [isOpening]), if_pos isOpening]
  · obtain rfl : after = outer := by omega
    rw [skipped, if_pos isClosing, if_neg (Nat.ne_of_gt open_)]
  · obtain rfl : after = outer + 1 := by omega
    rw [skipped, if_neg notClosing, if_neg notOpening]

/-- **A skip goes over a run that stays inside of the open braces**, and on with those that are open
behind it. -/
theorem StaysWithin.skipped_append (stays : StaysWithin depth run)
    (counts : after + closedBraces run = depth + openedBraces run) (rest : List Token) :
    skipped depth (run ++ rest) = run ++ skipped after rest := by
  induction run generalizing depth with
  | nil =>
      obtain rfl : after = depth := counts
      rfl
  | cons token run ih =>
      obtain ⟨between, first, staysToo⟩ := stays.exists_after
      rw [openedBraces_cons, closedBraces_cons] at counts
      rw [List.cons_append, skipped_cons stays.pos staysToo.pos first, ih staysToo (by omega),
        List.cons_append]

/-- A skip ends with the brace that closes the last of the open ones. -/
theorem StaysWithin.skipped_closing (stays : StaysWithin depth run)
    (isClosing : closing.kind = .operator .rightBrace)
    (last : closedBraces run + 1 = openedBraces run + depth) (rest : List Token) :
    skipped depth (run ++ closing :: rest) = run ++ [closing] := by
  have counts : 1 + closedBraces run = depth + openedBraces run := by omega
  rw [stays.skipped_append counts, skipped, if_pos isClosing, if_pos rfl]

/-- A skip counts the opening braces that it goes over. -/
theorem skipped_openings (depth : Nat) {openings : List Token}
    (areOpening : ∀ token ∈ openings, token.kind = .operator .leftBrace) (rest : List Token) :
    skipped depth (openings ++ rest) = openings ++ skipped (depth + openings.length) rest := by
  induction openings generalizing depth with
  | nil => rfl
  | cons opening openings ih =>
      have isOpening := areOpening opening List.mem_cons_self
      have others := ih (depth + 1) fun token inside =>
        areOpening token (List.mem_cons_of_mem _ inside)
      have one : skipped depth (opening :: (openings ++ rest)) =
          opening :: skipped (depth + 1) (openings ++ rest) := by
        cases depth <;> simp [skipped, isOpening]
      rw [List.cons_append, one, others, List.length_cons, Nat.add_right_comm, Nat.add_assoc,
        List.cons_append]

/-- Behind opening braces, a skip leaves what it leaves behind them with as many open. -/
theorem drop_skipped_openings {openings : List Token}
    (areOpening : ∀ token ∈ openings, token.kind = .operator .leftBrace) (rest : List Token) :
    (openings ++ rest).drop (skipped 0 (openings ++ rest)).length =
      rest.drop (skipped openings.length rest).length := by
  rw [skipped_openings 0 areOpening, Nat.zero_add, List.length_append, ← List.drop_drop,
    List.drop_left]

/-- Of closing braces alone, a skip takes as many as are open. -/
theorem skipped_eq_take (positive : 0 < depth)
    (closings : ∀ token ∈ run.take depth, token.kind = .operator .rightBrace) :
    skipped depth run = run.take depth := by
  induction run generalizing depth with
  | nil => rw [skipped, List.take_nil]
  | cons token run ih =>
      obtain ⟨outer, rfl⟩ := Nat.exists_eq_add_one.mpr positive
      rw [List.take_succ_cons] at closings ⊢
      rw [skipped, if_pos (closings token List.mem_cons_self)]
      split
      · rename_i none_left
        rw [none_left, List.take_zero]
      · rename_i some_left
        rw [ih (Nat.pos_of_ne_zero some_left) fun other inside =>
          closings other (List.mem_cons_of_mem _ inside)]

namespace SettlesWithin

/-- A skip goes over a run behind which the same braces are open. -/
theorem skipped_append (settles : SettlesWithin depth run) (rest : List Token) :
    skipped depth (run ++ rest) = run ++ skipped depth rest :=
  settles.within.skipped_append (by rw [settles.settled]) rest

/-- A skip ends with the brace that closes the first one. -/
theorem skipped_braces (settles : SettlesWithin 1 run)
    (isOpening : opening.kind = .operator .leftBrace)
    (isClosing : closing.kind = .operator .rightBrace) (rest : List Token) :
    skipped 0 (opening :: (run ++ closing :: rest)) = opening :: (run ++ [closing]) := by
  rw [skipped, if_neg (by simp [isOpening]), if_neg (by simp [isOpening]), if_pos isOpening,
    settles.skipped_append, skipped, if_pos isClosing, if_pos rfl]

end SettlesWithin

end NumericLanguage
