import NumericLanguage.Proofs.Analysis.Trace
import NumericLanguage.Proofs.Scanning.Separation

/-!
# Tokens from their spelling

Nothing is lost when the tokens of a text are spelled out, in whatever way they are set apart by
blanks: reading the spelling restores them (`spelling_restores_tokens`). The content of an
expression statement, a `write` or a `while` spells out the tokens of its expression, so that these
can be read back from the report.
-/

set_option autoImplicit false

namespace NumericLanguage

/-- The expression of a statement is made of the tokens from its first one on. -/
theorem StatementKind.expression?_subset {kind : StatementKind} {tokens run : List Token}
    (spelled : kind.expression? tokens = some run) : run ⊆ tokens := by
  have captures : ∀ others : List Token, captured 0 others ⊆ others := fun others =>
    List.IsPrefix.subset <| captured_prefix 0 others
  unfold expression? at spelled
  split at spelled
  · cases spelled
    exact captures tokens
  · cases spelled
    exact List.Subset.trans (captures _) (List.drop_subset 2 tokens)
  · cases spelled
    exact List.Subset.trans (captures _) (List.drop_subset 2 tokens)
  · cases spelled

/-- A token in front of the end of a list is one of the list, and does not end the input. -/
theorem mem_of_mem_programTokens {tokens : List Token} {token : Token}
    (inside : token ∈ programTokens tokens) : token ∈ tokens ∧ token.kind ≠ .endOfInput := by
  refine ⟨(List.takeWhile_prefix _).subset inside, ?_⟩
  simpa [Token.isEnd] using List.mem_takeWhile_imp inside

/-- **Spelling out tokens loses nothing.** The tokens of any text, however they are set apart by
blanks, are restored, and so they are from their spelling with single spaces. In the report on the
text, under any options, the content of every expression statement, `write` and `while` spells out
the expression at the place of the statement, and restores its tokens. -/
theorem spelling_restores_tokens (options : AnalysisOptions) (source : String) :
    (∃ body last, (tokenize options.file source).tokens = body ++ [last] ∧
      last.kind = .endOfInput ∧ (∀ token ∈ body, token.kind ≠ .endOfInput) ∧
      (∀ text : String, SetApart body text.toList → ∀ file, Restores file text body) ∧
      ∀ file, Restores file (Token.spelledOut body) body) ∧
    ∃ report, analyze options source = .ok report ∧
      ∀ statement ∈ report.statements.flatMap Statement.walk,
        statement.kind ∈ [StatementKind.expression, .write, .loop] →
        ∃ index token run, report.tokens[index]? = some token ∧
          statement.location = token.location ∧
          statement.kind.expression? (programTokens (report.tokens.drop index)) = some run ∧
          statement.content = Token.spelledOut run ∧
          ∀ file, Restores file statement.content run := by
  constructor
  · obtain ⟨body, last, split, ends, inside⟩ := exists_stop_of_tokenize options.file source
    have read : ∀ token ∈ body, token.IsRead := by
      intro token member
      have listed : token ∈ (tokenize options.file source).tokens := by
        rw [split]
        exact List.mem_append_left _ member
      exact isRead_of_mem_tokenize listed (inside token member)
    exact ⟨body, last, split, ends, inside,
      fun text setApart file => setApart.restores read file,
      fun file => (setApart_spelledOut body).restores read file⟩
  · obtain ⟨report, high, analysed, tokens, trace⟩ := exists_trace options source
    refine ⟨report, analysed, ?_⟩
    intro statement member spells
    rw [← Statement.walkAll_eq_flatMap] at member
    obtain ⟨index, -, stands⟩ := trace.exists_index member
    obtain ⟨token, found, location, -⟩ := stands.token
    obtain ⟨run, spelled⟩ : ∃ run,
        statement.kind.expression? (programTokens (report.tokens.drop index)) = some run := by
      simp only [List.mem_cons, List.not_mem_nil, or_false] at spells
      rcases spells with kind | kind | kind <;> exact ⟨_, by rw [kind]; rfl⟩
    have content := stands.content run spelled
    have read : ∀ token ∈ run, token.IsRead := by
      intro token inside
      obtain ⟨behind, goesOn⟩ :=
        mem_of_mem_programTokens (StatementKind.expression?_subset spelled inside)
      have listed := List.mem_of_mem_drop behind
      rw [tokens] at listed
      exact isRead_of_mem_tokenize listed goesOn
    refine ⟨index, token, run, found, location, spelled, content, ?_⟩
    intro file
    rw [content]
    exact (setApart_spelledOut run).restores read file

end NumericLanguage
