import NumericLanguage.Proofs.Analysis.Declarations
import NumericLanguage.Proofs.Analysis.Trace
import NumericLanguage.Proofs.Scanning.Positions

/-!
# The locations of a report

A token takes its location before its characters are read, and so does a piece of text that turns
out to be malformed. Parsing only copies locations: a statement is located at the token it begins
with, a declaration at its name, a diagnostic at the token it is about. So whatever a report speaks
of has the line and the column that its offset has in the text (`Report.Located`).

Where parsing takes its locations from is known from the trace of the statements (`exists_trace`),
from the anchors of the diagnostics (`Reads.anchored`), and from the pairs of tokens that
declarations read (`exists_declared`).
-/

set_option autoImplicit false

namespace NumericLanguage

/-! ## Scanned text -/

/-- Tokens and diagnostics of a named text with the lines and columns that their offsets have. -/
structure Tokenization.Located (file : String) (text : List Char) (found : Tokenization) :
    Prop where
  /-- The end of the input is one of the tokens. -/
  tokens : ∀ token ∈ found.tokens, token.location.Fits file text
  diagnostics : ∀ diagnostic ∈ found.diagnostics, diagnostic.location.Fits file text

namespace Accounts

variable {file : String} {text : List Char} {found : Tokenization} {pieces : List Piece}
  {piece : Piece}

/-- A piece of a text stands behind other characters of the text. -/
theorem exists_position (accounts : Accounts file text found pieces) (inside : piece ∈ pieces) :
    ∃ position : Position, position.Fits text ∧ piece.StandsAt file position := by
  obtain ⟨front, behind, split⟩ := List.append_of_mem inside
  have whole : front.flatMap Piece.text ++ (piece :: behind).flatMap Piece.text = text := by
    rw [← List.flatMap_append, ← split, accounts.whole]
  exact ⟨_, .after whole, accounts.stands front piece behind split⟩

theorem located (accounts : Accounts file text found pieces) : found.Located file text where
  tokens := by
    intro token inside
    rw [accounts.tokens] at inside
    rcases List.mem_append.mp inside with inFront | last
    · obtain ⟨piece, member, same⟩ := List.mem_filterMap.mp inFront
      obtain ⟨position, fits, stands⟩ := accounts.exists_position member
      cases stands with
      | token _ location =>
          cases same
          exact ⟨position, fits, location⟩
      | _ => cases same
    · cases List.mem_singleton.mp last
      exact ⟨_, .after (List.append_nil text), rfl⟩
  diagnostics := by
    intro diagnostic inside
    rw [accounts.diagnostics] at inside
    obtain ⟨piece, member, same⟩ := List.mem_filterMap.mp inside
    obtain ⟨position, fits, stands⟩ := accounts.exists_position member
    cases stands with
    | malformed =>
        cases same
        exact ⟨position, fits, rfl⟩
    | _ => cases same

end Accounts

/-! ## Reports -/

/-- A report on a named text in which everything has the line and the column of its offset. -/
structure Report.Located (file : String) (text : List Char) (report : Report) : Prop where
  tokens : ∀ token ∈ report.tokens, token.location.Fits file text
  diagnostics : ∀ diagnostic ∈ report.diagnostics, diagnostic.location.Fits file text
  /-- Statements inside others are located like those at the top. -/
  statements : ∀ statement ∈ report.statements.flatMap Statement.walk,
    statement.location.Fits file text
  declarations : ∀ declaration ∈ report.table.declarations, declaration.location.Fits file text

section Analyses

variable (options : AnalysisOptions) (source : String)

/-- Every analysis has a report in which diagnostics stand at tokens, but for those about malformed
text. -/
theorem exists_anchored :
    ∃ report, analyze options source = .ok report ∧
      report.tokens = (tokenize options.file source).tokens ∧
      ∀ diagnostic ∈ report.diagnostics, diagnostic ∈ (tokenize options.file source).diagnostics ∨
        ∃ token ∈ report.tokens, diagnostic.location = token.location := by
  by_cases parses : options.Parses source
  · obtain ⟨readings, final, reads⟩ := exists_reads_of_source options.file source
    obtain ⟨added, grown, inOrder⟩ := ReadsItems.anchored options.redeclarations reads
      (Within.of_tokenize options.file source) (options.begun source)
    refine ⟨_, analyze_of_reads reads parses, rfl, fun diagnostic inside => ?_⟩
    rw [AnalysisOptions.parsedReport, AnalysisOptions.outcome, grown] at inside
    rcases List.mem_append.mp inside with scanned | parsed
    · exact .inl scanned
    · obtain ⟨index, token, -, -, found, location⟩ := inOrder.exists_index parsed
      exact .inr ⟨token, List.mem_of_getElem? found, location⟩
  · exact ⟨_, analyze_of_stop parses, rfl, fun diagnostic inside => .inl inside⟩

/-- Every analysis has a report in which declarations are located at tokens. -/
theorem exists_named :
    ∃ report, analyze options source = .ok report ∧ ∀ declaration ∈ report.table.declarations,
      ∃ token ∈ report.tokens, declaration.location = token.location := by
  obtain ⟨report, high, findings, run, -, table, -, declared⟩ := exists_declared options source
  refine ⟨report, run, fun declaration inside => ?_⟩
  rw [table] at inside
  obtain ⟨scope, opened, member⟩ := List.mem_flatMap.mp inside
  obtain ⟨index, -, stands⟩ :=
    (declared.standing scope (List.mem_reverse.mp opened)).exists_index member
  obtain ⟨typeToken, name, pair, -, -, location⟩ := stands.pair
  exact ⟨name, List.mem_of_getElem? pair.nameAt, location⟩

end Analyses

/-- **Lines and columns follow from offsets.** Wherever a scanner stops after any steps, also after
one that fails, it is inside the text, its line and column are those of its offset, and the scanner
by index has stopped in the same position. The tokens and the diagnostics of a text are located in
this way, and so are the diagnostics, the statements and the declarations of a report. -/
theorem locations_fit (options : AnalysisOptions) (source : String) :
    (∀ calls : List ScannerCall,
      (calls.foldl Cursor.perform (.ofText options.file source)).Exact options.file
          source.toList ∧
        (calls.foldl Cursor.perform (.ofText options.file source)).position =
          calls.foldl (Indexed.behind options.file source.toList) .start) ∧
    (tokenize options.file source).Located options.file source.toList ∧
    ∃ report, analyze options source = .ok report ∧
      report.Located options.file source.toList := by
  have scanned := (accounts_tokenize options.file source).located
  obtain ⟨report, run, tokens, anchored⟩ := exists_anchored options source
  obtain ⟨traced, high, tracedRun, -, trace⟩ := exists_trace options source
  obtain ⟨named, namedRun, names⟩ := exists_named options source
  obtain rfl : report = traced := Except.ok.inj (run.symm.trans tracedRun)
  obtain rfl : report = named := Except.ok.inj (run.symm.trans namedRun)
  have tokensFit : ∀ token ∈ report.tokens, token.location.Fits options.file source.toList := by
    rw [tokens]
    exact scanned.tokens
  refine ⟨?_, scanned, report, run, tokensFit, ?_, ?_, ?_⟩
  · intro calls
    obtain ⟨stands, same⟩ := (Cursor.Stands.ofText options.file source).foldl calls
    exact ⟨stands.exact, same⟩
  · intro diagnostic inside
    rcases anchored diagnostic inside with malformed | ⟨token, member, location⟩
    · exact scanned.diagnostics diagnostic malformed
    · rw [location]
      exact tokensFit token member
  · intro statement inside
    rw [← Statement.walkAll_eq_flatMap] at inside
    obtain ⟨index, -, stands⟩ := trace.exists_index inside
    obtain ⟨token, found, location, -⟩ := stands.token
    rw [location]
    exact tokensFit token (List.mem_of_getElem? found)
  · intro declaration inside
    obtain ⟨token, member, location⟩ := names declaration inside
    rw [location]
    exact tokensFit token member

end NumericLanguage
