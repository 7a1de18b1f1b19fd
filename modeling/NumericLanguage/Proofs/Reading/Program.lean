import Mathlib.Data.List.TakeWhile
import NumericLanguage.Proofs.Reading.Total

/-!
# Readings of programs

A program is read from the beginning of its stream to the end of the input, item by item and with
all levels to spare. Its run is the effect of its readings (`program_of_reads`); a run that has a
result comes from readings (`exists_reads_of_program`), and one over tokens that all spell the types
they stand for has a result (`exists_reads_of_namesType`).
-/

set_option autoImplicit false

namespace NumericLanguage

open Parse ParseState

/-- The readings of a whole program, from the beginning of a stream to the end of the input. -/
def ReadsProgram (stream : TokenStream) (readings : List ParseTree) (final : TokenStream) : Prop :=
  ReadsItems TokenStream.atEnd maxNesting stream.rewound readings final

section Programs

variable {stream final : TokenStream} {readings : List ParseTree}

/-- Where some statements are open, an item has the other levels to spare. -/
theorem item_of_nesting (policy : RedeclarationPolicy) {state : ParseState} {nesting : Nat}
    (open_ : state.nesting = nesting) :
    item policy state =
      declarationOrStatement policy (statementWithin policy (maxNesting - nesting)) state := by
  have inner : statement policy state = statementWithin policy (maxNesting - nesting) state := by
    rw [statement, bind_of_ok (get_apply _), open_]
  rw [item, declarationOrStatement, declarationOrStatement, bind_of_ok (get_apply _),
    bind_of_ok (get_apply _), tryCatch_apply, tryCatch_apply, map_apply, map_apply]
  cases state.stream.atTypeName with
  | true => rfl
  | false => rw [if_neg (by simp), if_neg (by simp), inner]

/-- Outside of all statements, an item has all levels to spare. -/
theorem item_of_outside (policy : RedeclarationPolicy) {state : ParseState}
    (outside : state.nesting = 0) :
    item policy state =
      declarationOrStatement policy (statementWithin policy maxNesting) state := by
  rw [item_of_nesting policy outside, Nat.sub_zero]

theorem program_place (policy : RedeclarationPolicy) (stream : TokenStream) (nesting : Nat)
    (findings : Findings) :
    program policy (place stream nesting findings) =
      (do
        let statements ← repeatUntil TokenStream.atEnd (item policy)
        note (.parsed statements.length)
        return statements : Parse (List Statement)) (place stream.rewound 0 findings) := rfl

/-- **A program runs as it is read.** -/
theorem program_of_reads (reads : ReadsProgram stream readings final)
    (policy : RedeclarationPolicy) (nesting : Nat) (findings : Findings) :
    program policy (place stream nesting findings) =
      .ok (ParseTree.effectAll policy readings findings).1
        (place final 0 ((ParseTree.effectAll policy readings findings).2.note
          (.parsed (ParseTree.effectAll policy readings findings).1.length))) := by
  have repeats := ReadsItems.run policy reads stopsAtEnd_atEnd 0
    (fun _ outside => item_of_outside policy outside) findings
  rw [program_place]
  exact bind_of_ok repeats.repeatUntil

/-- A program is read up to the end of the input. -/
theorem ReadsProgram.rest_eq_nil (reads : ReadsProgram stream readings final) :
    final.rest = [] := by
  have ended := ReadsItems.stopped reads
  rwa [TokenStream.atEnd, List.isEmpty_iff] at ended

/-- A program that is misread has no result. -/
theorem reads_or_aborts (stream : TokenStream) :
    (∃ readings final, ReadsProgram stream readings final) ∨
      ((∃ token ∈ stream.rewound.rest, ¬ token.NamesType) ∧
        ∀ policy nesting findings, Aborts (program policy (place stream nesting findings))) := by
  rcases (reads_or_misread maxNesting).items stopsAtEnd_atEnd stream.rewound with
    ⟨readings, final, reads⟩ | ⟨misnamed, aborts⟩
  · exact .inl ⟨readings, final, reads⟩
  · refine .inr ⟨misnamed, ?_⟩
    intro policy nesting findings
    rw [program_place]
    refine Aborts.bind ?_ _
    rw [repeatUntil, bind_of_ok (get_apply _)]
    exact aborts policy 0 (fun _ outside => item_of_outside policy outside) findings _
      (Nat.le_refl _)

/-- A program that has a result has readings. -/
theorem exists_reads_of_program {policy : RedeclarationPolicy} {nesting : Nat}
    {findings : Findings} {statements : List Statement} {state : ParseState}
    (run : program policy (place stream nesting findings) = .ok statements state) :
    ∃ readings final, ReadsProgram stream readings final := by
  rcases reads_or_aborts stream with reads | ⟨-, aborts⟩
  · exact reads
  · obtain ⟨failure, last, failed, -⟩ := aborts policy nesting findings
    cases run.symm.trans failed

/-- A program whose tokens all spell the types they stand for has readings. -/
theorem exists_reads_of_namesType (stream : TokenStream)
    (spelled : ∀ token ∈ stream.rewound.rest, token.NamesType) :
    ∃ readings final, ReadsProgram stream readings final := by
  rcases reads_or_aborts stream with reads | ⟨⟨token, behind, misnamed⟩, -⟩
  · exact reads
  · exact absurd (spelled token behind) misnamed

end Programs

/-! ## Programs of a token list -/

/-- The tokens of a list in front of the one that ends the input. -/
def programTokens (tokens : List Token) : List Token := tokens.takeWhile fun token => !token.isEnd

theorem ofTokens_eq_place (tokens : List Token) :
    ParseState.ofTokens tokens = place (.ofTokens tokens) 0 .nothing := rfl

/-- The tokens up to the one that ends the input are a beginning of the closed list. -/
theorem exists_closedTokens_eq (tokens : List Token) :
    ∃ more, closedTokens tokens =
      programTokens tokens ++ [(TokenStream.ofTokens tokens).stop] ++ more := by
  rw [TokenStream.ofTokens, closedTokens, programTokens]
  cases found : tokens.find? Token.isEnd with
  | none =>
      have goesOn : ∀ token ∈ tokens, (!token.isEnd) = true := by
        simpa using found
      have noEnd : tokens.getLast?.any Token.isEnd = false := by
        cases last : tokens.getLast? with
        | none => rfl
        | some token => simpa using goesOn token (List.mem_of_getLast? last)
      rw [noEnd, List.takeWhile_eq_self_iff.mpr goesOn]
      exact ⟨[], by simp⟩
  | some stop =>
      obtain ⟨ends, before, behind, rfl, goesOn⟩ := List.find?_eq_some_iff_append.mp found
      rw [List.takeWhile_append_of_pos goesOn, List.takeWhile_cons_of_neg (by simp [ends])]
      split
      · exact ⟨behind, by simp⟩
      · exact ⟨behind ++ [missingEnd (before ++ stop :: behind)], by simp⟩

/-- What stands at an index up to the end of the input stands there in the closed list. -/
theorem getElem?_closedTokens {tokens : List Token} {index : Nat} {token : Token}
    (found : (programTokens tokens ++ [(TokenStream.ofTokens tokens).stop])[index]? = some token) :
    (closedTokens tokens)[index]? = some token := by
  obtain ⟨more, closed⟩ := exists_closedTokens_eq tokens
  rw [closed, List.getElem?_append_left (List.getElem?_eq_some_iff.mp found).1, found]

end NumericLanguage
