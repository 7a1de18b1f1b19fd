import NumericLanguage.Proofs.Analysis.Anchors
import NumericLanguage.Proofs.Parsing.Course

/-!
# The order of the diagnostics

Diagnostics come out by stage and in source order (`analyze_in_order`). Those about malformed text
come first, each further on than the one before. Those of parsing follow; each stands at a token,
and none in front of an earlier one. At every moment of an analysis the log is a beginning of what
it is in the end: nothing that was recorded is removed or moved.
-/

set_option autoImplicit false

namespace NumericLanguage

open Parse ParseState

/-! ## Offsets of elements -/

/-- Elements follow one another: each begins behind the beginning of the one before, and in front of
the end of the text. -/
theorem placed_ascending (position : Position) {pieces : List Element}
    (nonempty : ∀ element ∈ pieces, element.text ≠ []) :
    (placed position pieces).Pairwise (fun earlier later => earlier.1.offset < later.1.offset) ∧
      ∀ piece ∈ placed position pieces, position.offset ≤ piece.1.offset ∧
        piece.1.offset < (position.after (pieces.flatMap Element.text)).offset := by
  induction pieces generalizing position with
  | nil => exact ⟨List.Pairwise.nil, fun _ inside => absurd inside List.not_mem_nil⟩
  | cons element others ih =>
      have length := List.length_pos_iff.mpr (nonempty element List.mem_cons_self)
      obtain ⟨ascending, between⟩ := ih (position.after element.text)
        fun other inside => nonempty other (List.mem_cons_of_mem _ inside)
      rw [List.flatMap_cons, Position.after_append]
      simp only [Position.offset_after] at between ⊢
      refine ⟨List.Pairwise.cons (fun piece inside => ?_) ascending, fun piece inside => ?_⟩
      · have behind := (between piece inside).1
        dsimp only
        omega
      · rcases List.mem_cons.mp inside with rfl | member
        · dsimp only
          omega
        · have bounds := between piece member
          omega

section Tokenization

variable {file source : String} {position : Position} {element : Element}

theorem Element.location_of_token? {token : Token}
    (isToken : element.token? file position = some token) :
    token.location = position.within file := by
  unfold Element.token? at isToken
  split at isToken
  · cases isToken
    rfl
  · cases isToken

theorem Element.location_of_diagnostic? {diagnostic : Diagnostic}
    (malformed : element.diagnostic? file position = some diagnostic) :
    diagnostic.location = position.within file := by
  unfold Element.diagnostic? at malformed
  split at malformed
  · cases malformed
    rfl
  · cases malformed

theorem placed_elements_ascending (text : List Char) :
    (placed Position.start (elements text)).Pairwise
        (fun earlier later => earlier.1.offset < later.1.offset) ∧
      ∀ piece ∈ placed Position.start (elements text),
        piece.1.offset < (Position.start.after text).offset := by
  have nonempty : ∀ element ∈ elements text, element.text ≠ [] := by
    intro element inside
    obtain ⟨head, rest, rfl⟩ := exists_scan_of_mem_elements inside
    exact scan_text_ne_nil head rest
  obtain ⟨ascending, between⟩ := placed_ascending Position.start nonempty
  rw [elements_text] at between
  exact ⟨ascending, fun piece inside => (between piece inside).2⟩

variable (file source)

/-- Each token stands further on than the one before, the last one at the end of the text. -/
theorem tokens_ascending :
    (tokenize file source).tokens.Pairwise fun earlier later =>
      earlier.location.offset < later.location.offset := by
  obtain ⟨ascending, inFront⟩ := placed_elements_ascending source.toList
  refine List.pairwise_append.mpr ⟨?_, List.pairwise_singleton _ _, ?_⟩
  · refine List.pairwise_filterMap.mpr (ascending.imp ?_)
    intro earlier later further token isToken other isOther
    rw [Element.location_of_token? isToken, Element.location_of_token? isOther]
    exact Int.ofNat_lt.mpr further
  · intro token inside last isLast
    obtain ⟨piece, member, isToken⟩ := List.mem_filterMap.mp inside
    rw [Element.location_of_token? isToken, List.mem_singleton.mp isLast]
    exact Int.ofNat_lt.mpr (inFront piece member)

/-- Each malformed piece of text stands further on than the one before. -/
theorem diagnostics_ascending :
    (tokenize file source).diagnostics.Pairwise fun earlier later =>
      earlier.location.offset < later.location.offset := by
  refine List.pairwise_filterMap.mpr ((placed_elements_ascending source.toList).1.imp ?_)
  intro earlier later further diagnostic recorded other recordedToo
  rw [Element.location_of_diagnostic? recorded, Element.location_of_diagnostic? recordedToo]
  exact Int.ofNat_lt.mpr further

end Tokenization

/-! ## The log at the moments of an analysis -/

/-- The log behind an element: the diagnostic of a malformed one is recorded. -/
def DiagnosticLog.scanned (file : String) (log : DiagnosticLog) (piece : Position × Element) :
    DiagnosticLog :=
  match piece.2.diagnostic? file piece.1 with
  | some diagnostic => log.record diagnostic
  | none => log

/-- What the log holds while a text is cut into its elements: in front of the first one, and behind
each of them. -/
def scanningLogs (file source : String) : List DiagnosticLog :=
  (placed Position.start (elements source.toList)).scanl (DiagnosticLog.scanned file) []

instance (options : AnalysisOptions) (source : String) : Decidable (options.Parses source) :=
  inferInstanceAs (Decidable (_ ∨ _))

/-- What the log holds while the tokens of a text are parsed. -/
def AnalysisOptions.parsingLogs (options : AnalysisOptions) (source : String) :
    List DiagnosticLog :=
  ((Course.program options.redeclarations).moments
    (place (.ofTokens (tokenize options.file source).tokens) 0 (options.begun source))).map
      ParseState.diagnostics

/-- What the log holds at the moments of an analysis, one after the other. -/
def AnalysisOptions.logs (options : AnalysisOptions) (source : String) : List DiagnosticLog :=
  scanningLogs options.file source ++
    if options.Parses source then options.parsingLogs source else []

section Logs

variable (options : AnalysisOptions) (source : String)

theorem scanl_scanned_grow (file : String) (pieces : List (Position × Element))
    (log : DiagnosticLog) :
    DiagnosticLog.Grows log (pieces.scanl (DiagnosticLog.scanned file) log)
      (log ++ pieces.filterMap fun piece => piece.2.diagnostic? file piece.1) := by
  induction pieces generalizing log with
  | nil =>
      rw [List.filterMap_nil, List.append_nil]
      exact .stay log
  | cons piece others ih =>
      rw [List.scanl_cons, List.filterMap_cons]
      unfold DiagnosticLog.scanned
      cases piece.2.diagnostic? file piece.1 with
      | none => exact .cons List.prefix_rfl (ih log)
      | some diagnostic =>
          have behind := ih (log.record diagnostic)
          rw [DiagnosticLog.record, List.append_assoc] at behind
          exact .cons (log.prefix_record diagnostic) behind

theorem scanningLogs_grow (file : String) :
    DiagnosticLog.Grows [] (scanningLogs file source) (tokenize file source).diagnostics :=
  scanl_scanned_grow file (placed Position.start (elements source.toList)) []

/-- While the tokens are parsed, the log goes on from what scanning has left in it. -/
theorem parsingLogs_grow {readings : List ParseTree} {final : TokenStream}
    (reads : ReadsProgram (.ofTokens (tokenize options.file source).tokens) readings final) :
    DiagnosticLog.Grows (tokenize options.file source).diagnostics (options.parsingLogs source)
      (options.parsedReport source readings).diagnostics := by
  have run := program_of_reads reads options.redeclarations 0 (options.begun source)
  have grows := (Course.program options.redeclarations).grows
    (place (.ofTokens (tokenize options.file source).tokens) 0 (options.begun source))
  rw [stateBehind, run] at grows
  exact grows

end Logs

/-! ## Stages -/

/-- What holds of the diagnostics of a report, and of the log at the moments of its analysis. -/
structure Report.Ordered (report : Report) (logs : List DiagnosticLog) : Prop where
  /-- The diagnostics about malformed text come first. -/
  stages : report.diagnostics = report.diagnostics.ofCategory .lexical ++
    report.diagnostics.filter fun diagnostic => diagnostic.category ≠ .lexical
  /-- Each malformed piece of text stands further on than the one before. -/
  ascending : (report.diagnostics.ofCategory .lexical).Pairwise fun earlier later =>
    earlier.location.offset < later.location.offset
  /-- No diagnostic of parsing stands in front of an earlier one. -/
  sorted : (report.diagnostics.filter fun diagnostic => diagnostic.category ≠ .lexical).Pairwise
    fun earlier later => earlier.location.offset ≤ later.location.offset
  /-- Each diagnostic of parsing stands at a token. -/
  anchored : ∀ diagnostic ∈ report.diagnostics, diagnostic.category ≠ .lexical →
    ∃ token ∈ report.tokens, diagnostic.location = token.location
  /-- The log is only ever continued. -/
  grows : DiagnosticLog.Grows [] logs report.diagnostics
  /-- At every moment it is a beginning of what it is in the end. -/
  inFront : ∀ log ∈ logs, log <+: report.diagnostics

/-- A report is ordered whose diagnostics are those of scanning and, behind them, others in the
order of the tokens. -/
theorem Report.Ordered.of_stages {file source : String} {report : Report}
    {logs : List DiagnosticLog} {added : List Diagnostic} {low high : Nat}
    (tokens : report.tokens = (tokenize file source).tokens)
    (split : report.diagnostics = (tokenize file source).diagnostics ++ added)
    (parsing : ∀ diagnostic ∈ added, diagnostic.category ≠ .lexical)
    (inOrder : InOrder report.tokens low added high)
    (grows : DiagnosticLog.Grows [] logs report.diagnostics) : report.Ordered logs := by
  have lexical : report.diagnostics.ofCategory .lexical = (tokenize file source).diagnostics := by
    have no_lexical : added.filter (fun diagnostic => diagnostic.category = .lexical) = [] := by
      simpa using parsing
    rw [split, DiagnosticLog.ofCategory, List.filter_append, no_lexical, List.append_nil]
    exact ofCategory_lexical_tokenize
  have others : report.diagnostics.filter (fun diagnostic => diagnostic.category ≠ .lexical) =
      added := by
    have no_other : (tokenize file source).diagnostics.filter
        (fun diagnostic => diagnostic.category ≠ .lexical) = [] := by
      refine List.filter_eq_nil_iff.mpr fun diagnostic inside => ?_
      obtain ⟨fault, location, rfl⟩ := exists_fault_of_mem_tokenize inside
      simp [LexicalFault.diagnostic]
    have all : added.filter (fun diagnostic => diagnostic.category ≠ .lexical) = added := by
      simpa using parsing
    rw [split, List.filter_append, no_other, all, List.nil_append]
  refine ⟨?_, ?_, ?_, ?_, grows, fun log inside => grows.inFront inside⟩
  · rw [lexical, others, split]
  · rw [lexical]
    exact diagnostics_ascending file source
  · rw [others]
    refine inOrder.sorted ?_
    rw [tokens]
    exact (tokens_ascending file source).imp Int.le_of_lt
  · intro diagnostic inside ofParsing
    have member : diagnostic ∈ added := by
      rw [← others]
      exact List.mem_filter.mpr ⟨inside, by simpa using ofParsing⟩
    obtain ⟨index, token, -, -, found, stands⟩ := inOrder.exists_index member
    exact ⟨token, List.mem_of_getElem? found, stands⟩

/-- **Diagnostics come out by stage and in source order**, for every text and under all options, and
the log they are recorded in is only ever continued. -/
theorem analyze_in_order (options : AnalysisOptions) (source : String) :
    ∃ report, analyze options source = .ok report ∧ report.Ordered (options.logs source) := by
  obtain ⟨readings, final, reads⟩ := exists_reads_of_source options.file source
  have scanned := scanningLogs_grow source options.file
  by_cases parses : options.Parses source
  · refine ⟨_, analyze_of_reads reads parses, ?_⟩
    have within := Within.of_tokenize options.file source
    obtain ⟨added, grown, inOrder⟩ :=
      ReadsItems.anchored options.redeclarations reads within (options.begun source)
    obtain ⟨others, grownToo, ofParsing⟩ := options.exists_added source readings
    obtain rfl : added = others := List.append_cancel_left (grown.symm.trans grownToo)
    have logs : options.logs source =
        scanningLogs options.file source ++ options.parsingLogs source := by
      rw [AnalysisOptions.logs, if_pos parses]
    rw [logs]
    exact .of_stages rfl grown (fun diagnostic member => (ofParsing diagnostic member).category_ne)
      inOrder (scanned.append (parsingLogs_grow options source reads))
  · refine ⟨_, analyze_of_stop parses, ?_⟩
    have logs : options.logs source = scanningLogs options.file source := by
      rw [AnalysisOptions.logs, if_neg parses, List.append_nil]
    rw [logs]
    exact .of_stages rfl (List.append_nil _).symm
      (fun _ inside => absurd inside List.not_mem_nil) (.nil (Nat.le_refl 0)) scanned

end NumericLanguage
