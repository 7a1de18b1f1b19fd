import NumericLanguage.Proofs.Scanning.LongestMatch

/-!
# Scanning loses nothing

A text falls into pieces without a gap between them: blanks, comments, the texts of tokens, and
malformed texts of which one diagnostic reports each (`tokenize_lossless`). The tokens and the
diagnostics of the text are those of its pieces, in order, so that nothing is reported twice and a
token can be cut out of the text by its offset.
-/

set_option autoImplicit false

namespace NumericLanguage

/-! ## Pieces -/

/-- A piece of a text with what was found in it. -/
inductive Piece
  | blank (c : Char)
  | comment (text : List Char)
  | token (token : Token)
  | malformed (text : List Char) (report : Diagnostic)

namespace Piece

/-- The characters of a piece. -/
def text : Piece → List Char
  | blank c => [c]
  | comment text => text
  | token found => found.lexeme.toList
  | malformed text _ => text

/-- The token that a piece is, if it is one. -/
def token? : Piece → Option Token
  | token found => some found
  | _ => none

/-- What is reported about a piece, if it is malformed. -/
def report? : Piece → Option Diagnostic
  | malformed _ report => some report
  | _ => none

/-- A piece is what it claims to be, at a place in a named text. -/
inductive StandsAt (file : String) (position : Position) : Piece → Prop
  | blank {c : Char} : c ∈ [' ', '\t', '\r', '\n'] → StandsAt file position (.blank c)
  | comment {form : LexicalForm} {text rest : List Char} :
      Lexeme form text rest .comment → StandsAt file position (.comment text)
  | token {form : LexicalForm} {rest : List Char} {token : Token} :
      Lexeme form token.lexeme.toList rest (.token token.kind token.value) →
      token.location = position.within file → StandsAt file position (.token token)
  | malformed {text : List Char} {fault : LexicalFault} :
      text ≠ [] →
      StandsAt file position (.malformed text (fault.diagnostic (position.within file)))

variable {file : String} {position : Position} {piece : Piece}

theorem StandsAt.text_ne_nil (stands : piece.StandsAt file position) : piece.text ≠ [] := by
  cases stands with
  | blank => exact List.cons_ne_nil _ _
  | comment lexeme => exact lexeme.text_ne_nil
  | token lexeme => exact lexeme.text_ne_nil
  | malformed some => exact some

/-- A malformed text is reported where it begins. -/
theorem StandsAt.of_malformed {text : List Char} {report : Diagnostic}
    (stands : (Piece.malformed text report).StandsAt file position) :
    text ≠ [] ∧ report.location = position.within file ∧ report.category = .lexical := by
  cases stands with
  | malformed some => exact ⟨some, rfl, rfl⟩

end Piece

/-- Pieces that stand in a named text from a position on, one behind the other. -/
inductive FallsInto (file : String) : Position → List Char → List Piece → Prop
  | nil {position : Position} : FallsInto file position [] []
  | cons {position : Position} {piece : Piece} {rest : List Char} {others : List Piece} :
      piece.StandsAt file position → FallsInto file (position.after piece.text) rest others →
      FallsInto file position (piece.text ++ rest) (piece :: others)

namespace FallsInto

variable {file : String} {position : Position} {text : List Char}
  {front behind pieces : List Piece} {piece : Piece}

/-- The pieces of a text make it up. -/
theorem flatMap_text (falls : FallsInto file position text pieces) :
    pieces.flatMap Piece.text = text := by
  induction falls with
  | nil => rfl
  | cons _ _ ih => rw [List.flatMap_cons, ih]

/-- The pieces behind others stand where those end. -/
theorem of_append (falls : FallsInto file position text (front ++ behind)) :
    FallsInto file position (front.flatMap Piece.text) front ∧
      ∃ rest, FallsInto file (position.after (front.flatMap Piece.text)) rest behind := by
  induction front generalizing position text with
  | nil => exact ⟨.nil, text, falls⟩
  | cons piece others ih =>
      cases falls with
      | cons stands falls =>
          obtain ⟨inFront, inBack⟩ := ih falls
          rw [List.flatMap_cons, Position.after_append]
          exact ⟨.cons stands inFront, inBack⟩

/-- A piece stands where the pieces in front of it end. -/
theorem stands (falls : FallsInto file position text (front ++ piece :: behind)) :
    piece.StandsAt file (position.after (front.flatMap Piece.text)) := by
  obtain ⟨-, rest, falls⟩ := falls.of_append
  cases falls with
  | cons stands _ => exact stands

/-! ## What is reported about pieces -/

/-- A report about a piece of a text is located in that text. -/
theorem report_within (falls : FallsInto file position text pieces) :
    ∀ report ∈ pieces.filterMap Piece.report?, ∃ offset : Nat,
      report.location.offset = offset ∧ position.offset ≤ offset ∧
        offset < position.offset + text.length := by
  intro report inside
  obtain ⟨piece, member, reported⟩ := List.mem_filterMap.mp inside
  obtain ⟨front, behind, rfl⟩ := List.append_of_mem member
  rw [← falls.flatMap_text]
  cases piece with
  | malformed text other =>
      cases reported
      obtain ⟨some, located, -⟩ := falls.stands.of_malformed
      have positive := List.length_pos_iff.mpr some
      refine ⟨_, congrArg Location.offset located, ?_, ?_⟩
      · rw [Position.offset_after]
        exact Nat.le_add_right _ _
      · simp only [Position.offset_after, List.flatMap_append, List.flatMap_cons,
          List.length_append, Piece.text]
        omega
  | _ => cases reported

/-- Nothing is reported about a place outside a text. -/
theorem filter_report_eq_nil (place : Location) {offset : Nat}
    (falls : FallsInto file position text pieces) (located : place.offset = offset)
    (outside : offset < position.offset ∨ position.offset + text.length ≤ offset) :
    (pieces.filterMap Piece.report?).filter (fun report => report.location = place) = [] := by
  rw [List.filter_eq_nil_iff]
  intro report inside
  obtain ⟨within, locatedToo, lower, upper⟩ := falls.report_within report inside
  rw [decide_eq_true_iff]
  rintro rfl
  omega

/-- Of each malformed piece there is one report only. -/
theorem filter_report {malformed : List Char} {report : Diagnostic}
    (falls : FallsInto file position text pieces)
    (inside : .malformed malformed report ∈ pieces) :
    (pieces.filterMap Piece.report?).filter (fun other => other.location = report.location) =
      [report] := by
  obtain ⟨front, behind, rfl⟩ := List.append_of_mem inside
  obtain ⟨inFront, rest, falls⟩ := falls.of_append
  cases falls with
  | @cons _ _ rest _ stands inBack =>
      obtain ⟨some, located, -⟩ := stands.of_malformed
      have positive := List.length_pos_iff.mpr some
      have reported : (Piece.malformed malformed report :: behind).filterMap Piece.report? =
          report :: behind.filterMap Piece.report? := rfl
      -- What is reported in front lies in front, what is reported behind lies behind.
      have noneInFront := inFront.filter_report_eq_nil report.location
        (congrArg Location.offset located) (.inr (by rw [Position.offset_after]))
      have noneBehind := inBack.filter_report_eq_nil report.location
        (congrArg Location.offset located)
        (.inl (by simpa [Position.offset_after, Piece.text] using positive))
      rw [List.filterMap_append, List.filter_append, reported, noneInFront, List.nil_append,
        List.filter_cons_of_pos (by simp), noneBehind]

end FallsInto

/-! ## Elements as pieces -/

namespace Lexeme

variable {form : LexicalForm} {text rest : List Char} {kind : TokenKind} {value : Option Literal}

/-- No text stands for the end of the input. -/
theorem kind_ne_endOfInput (lexeme : Lexeme form text rest (.token kind value)) :
    kind ≠ .endOfInput := by
  cases lexeme <;> nofun

/-- A number, a word and an operator hold no blanks. -/
theorem isBlank_of_plain {result : Form} (lexeme : Lexeme form text rest result)
    (plain : form ∈ [LexicalForm.number, .word, .operator]) : ∀ c ∈ text, isBlank c = false := by
  cases form with
  | number =>
      obtain ⟨whole, -, digits, shape⟩ := lexeme.number_shape
      have noBlank : ∀ c, c.isDigit = true → isBlank c = false := fun c digit =>
        isBlank_of_continuesWord (continuesWord_of_isDigit digit)
      rcases shape with rfl | ⟨fraction, -, more, rfl⟩
      · exact fun c inside => noBlank c (digits c inside)
      · intro c inside
        rcases List.mem_append.mp inside with inFront | behind
        · exact noBlank c (digits c inFront)
        · rcases List.mem_cons.mp behind with rfl | behind
          · decide
          · exact noBlank c (more c behind)
  | word =>
      obtain ⟨first, others, rfl, starts, continues⟩ := lexeme.word_shape
      intro c inside
      rcases List.mem_cons.mp inside with rfl | behind
      · exact isBlank_of_continuesWord (continuesWord_of_startsWord starts)
      · exact isBlank_of_continuesWord (continues c behind)
  | operator =>
      cases lexeme with
      | operator spelled => exact Operator.isBlank_of_spelling spelled
  | _ => exact absurd plain (by decide)

/-- Only a string holds blanks. -/
theorem isBlank_eq_false (lexeme : Lexeme form text rest (.token kind value))
    (notString : kind ≠ .string) : ∀ c ∈ text, isBlank c = false := by
  cases form with
  | string =>
      cases lexeme
      exact absurd rfl notString
  | blank => cases lexeme
  | lineComment => cases lexeme
  | blockComment => cases lexeme
  | number => exact lexeme.isBlank_of_plain (by decide)
  | word => exact lexeme.isBlank_of_plain (by decide)
  | operator => exact lexeme.isBlank_of_plain (by decide)

end Lexeme

namespace Piece

/-- The piece that an element is. -/
def ofElement (file : String) (position : Position) (element : Element) : Piece :=
  match element.form with
  | .blank => .blank (element.text.headD ' ')
  | .comment => .comment element.text
  | .token kind value =>
      .token ⟨kind, String.ofList element.text, value, position.within file⟩
  | .malformed fault => .malformed element.text (fault.diagnostic (position.within file))

variable {file : String} {position : Position} {element : Element}

theorem token?_ofElement :
    (ofElement file position element).token? = element.token? file position := by
  unfold ofElement Element.token?
  cases element.form <;> rfl

theorem report?_ofElement :
    (ofElement file position element).report? = element.diagnostic? file position := by
  unfold ofElement Element.diagnostic?
  cases element.form <;> rfl

/-- A scanned element is a piece where it begins. -/
theorem ofElement_stands {input : List Char} (scans : Scans input element) :
    (ofElement file position element).text = element.text ∧
      (ofElement file position element).StandsAt file position := by
  obtain ⟨text, form⟩ := element
  cases form with
  | blank =>
      obtain ⟨form, rest, lexeme⟩ := scans.exists_lexeme nofun
      cases lexeme with
      | blank inside => exact ⟨rfl, .blank inside⟩
  | comment =>
      obtain ⟨form, rest, lexeme⟩ := scans.exists_lexeme nofun
      exact ⟨rfl, .comment lexeme⟩
  | token kind value =>
      obtain ⟨form, rest, lexeme⟩ := scans.exists_lexeme nofun
      have spelled : Lexeme form (String.ofList text).toList rest (.token kind value) := by
        rw [String.toList_ofList]
        exact lexeme
      exact ⟨String.toList_ofList, .token spelled rfl⟩
  | malformed fault => exact ⟨rfl, .malformed scans.text_ne_nil⟩

/-- The pieces that elements are. -/
def ofElements (file : String) (position : Position) (elements : List Element) : List Piece :=
  (placed position elements).map fun place => ofElement file place.1 place.2

theorem filterMap_token?_ofElements {elements : List Element} :
    (ofElements file position elements).filterMap token? =
      (placed position elements).filterMap fun place => place.2.token? file place.1 := by
  simp only [ofElements, List.filterMap_map, Function.comp_def, token?_ofElement]

theorem filterMap_report?_ofElements {elements : List Element} :
    (ofElements file position elements).filterMap report? =
      (placed position elements).filterMap fun place => place.2.diagnostic? file place.1 := by
  simp only [ofElements, List.filterMap_map, Function.comp_def, report?_ofElement]

end Piece

/-- The elements of a text are pieces of it. -/
theorem Cuts.fallsInto {file : String} {position : Position} {text : List Char}
    {elements : List Element} (cuts : Cuts text elements) :
    FallsInto file position text (Piece.ofElements file position elements) := by
  induction cuts generalizing position with
  | nil => exact .nil
  | @cons rest element others scans _ ih =>
      obtain ⟨same, stands⟩ := Piece.ofElement_stands scans
      rw [← same]
      refine .cons stands ?_
      rw [same]
      exact ih

/-! ## The tokens of a text -/

/-- What it takes for pieces to account for a named text and for what was found in it. -/
structure Accounts (file : String) (source : List Char) (found : Tokenization)
    (pieces : List Piece) : Prop where
  /-- The pieces make up the text. -/
  whole : pieces.flatMap Piece.text = source
  nonempty : ∀ piece ∈ pieces, piece.text ≠ []
  /-- A piece is what it claims to be, behind the pieces in front of it. -/
  stands : ∀ front piece behind, pieces = front ++ piece :: behind →
    piece.StandsAt file (Position.start.after (front.flatMap Piece.text))
  /-- Tokens are the pieces that are tokens, in order, and the end of the input. -/
  tokens : found.tokens =
    pieces.filterMap Piece.token? ++ [endToken ((Position.start.after source).within file)]
  notEnd : ∀ token, .token token ∈ pieces → token.kind ≠ .endOfInput
  /-- A token can be cut out of the text. -/
  slice : ∀ token ∈ found.tokens, ∃ offset : Nat, token.location.offset = offset ∧
    (source.drop offset).take token.lexeme.length = token.lexeme.toList
  /-- Diagnostics are the malformed pieces, in order. -/
  diagnostics : found.diagnostics = pieces.filterMap Piece.report?
  /-- Only one diagnostic is located at a malformed piece. -/
  reportedOnce : ∀ text report, .malformed text report ∈ pieces →
    report.category = .lexical ∧
      found.diagnostics.filter (fun other => other.location = report.location) = [report]

namespace FallsInto

variable {file : String} {source : List Char} {pieces : List Piece}

/-- A token that is a piece of a text can be cut out of the text. -/
theorem slice {token : Token} (falls : FallsInto file .start source pieces)
    (inside : .token token ∈ pieces) :
    ∃ offset : Nat, token.location.offset = offset ∧
      (source.drop offset).take token.lexeme.length = token.lexeme.toList := by
  obtain ⟨front, behind, rfl⟩ := List.append_of_mem inside
  cases falls.stands with
  | token _ located =>
      refine ⟨(Position.start.after (front.flatMap Piece.text)).offset,
        congrArg Location.offset located, ?_⟩
      rw [← falls.flatMap_text, Position.offset_after, List.flatMap_append, List.flatMap_cons]
      have begins : Position.start.offset + (front.flatMap Piece.text).length =
          (front.flatMap Piece.text).length := Nat.zero_add _
      rw [begins, List.drop_left, Piece.text, ← String.length_toList, List.take_left]

theorem accounts {found : Tokenization} (falls : FallsInto file .start source pieces)
    (tokens : found.tokens =
      pieces.filterMap Piece.token? ++ [endToken ((Position.start.after source).within file)])
    (diagnostics : found.diagnostics = pieces.filterMap Piece.report?) :
    Accounts file source found pieces where
  whole := falls.flatMap_text
  nonempty := by
    intro piece inside
    obtain ⟨front, behind, rfl⟩ := List.append_of_mem inside
    exact falls.stands.text_ne_nil
  stands := by
    rintro front piece behind rfl
    exact falls.stands
  tokens := tokens
  notEnd := by
    intro token inside
    obtain ⟨front, behind, rfl⟩ := List.append_of_mem inside
    cases falls.stands with
    | token lexeme _ => exact lexeme.kind_ne_endOfInput
  slice := by
    intro token inside
    rw [tokens] at inside
    rcases List.mem_append.mp inside with inside | last
    · obtain ⟨piece, member, same⟩ := List.mem_filterMap.mp inside
      cases piece with
      | token found =>
          cases same
          exact falls.slice member
      | _ => cases same
    · obtain rfl := List.mem_singleton.mp last
      exact ⟨_, rfl, rfl⟩
  diagnostics := diagnostics
  reportedOnce := by
    intro text report inside
    rw [diagnostics]
    refine ⟨?_, falls.filter_report inside⟩
    obtain ⟨front, behind, rfl⟩ := List.append_of_mem inside
    exact falls.stands.of_malformed.2.2

/-- The lexemes of a text without comments, strings and malformed pieces are all but the blanks. -/
theorem lexemes_eq_filter {position : Position} (falls : FallsInto file position source pieces)
    (plain : ∀ piece ∈ pieces, (∃ c, piece = .blank c) ∨
      ∃ token, piece = .token token ∧ token.kind ≠ .string) :
    (pieces.filterMap Piece.token?).flatMap (fun token => token.lexeme.toList) =
      source.filter fun c => !isBlank c := by
  induction falls with
  | nil => rfl
  | @cons position piece rest others stands _ ih =>
      have behind := ih fun piece inside => plain piece (List.mem_cons_of_mem _ inside)
      rw [List.filter_append, ← behind]
      rcases plain piece List.mem_cons_self with ⟨c, rfl⟩ | ⟨token, rfl, notString⟩
      · cases stands with
        | blank blank =>
            have skipped : isBlank c = true := isBlank_iff.mpr blank
            have none : (Piece.blank c).token? = none := rfl
            rw [List.filterMap_cons_none none, Piece.text,
              List.filter_cons_of_neg (by simp [skipped]), List.filter_nil, List.nil_append]
      · cases stands with
        | token lexeme _ =>
            have kept : token.lexeme.toList.filter (fun c => !isBlank c) =
                token.lexeme.toList := by
              rw [List.filter_eq_self]
              intro c inside
              rw [lexeme.isBlank_eq_false notString c inside, Bool.not_false]
            rw [Piece.text, kept]
            rfl

end FallsInto

/-- Pieces of a text without diagnostics, comments and strings are blanks and other tokens. -/
theorem Accounts.plain {file : String} {source : List Char} {found : Tokenization}
    {pieces : List Piece} (accounts : Accounts file source found pieces)
    (clean : found.diagnostics = []) (noComment : ∀ text, .comment text ∉ pieces)
    (noString : ∀ token ∈ found.tokens, token.kind ≠ .string) :
    ∀ piece ∈ pieces, (∃ c, piece = .blank c) ∨
      ∃ token, piece = .token token ∧ token.kind ≠ .string := by
  intro piece inside
  cases piece with
  | blank c => exact .inl ⟨c, rfl⟩
  | comment text => exact absurd inside (noComment text)
  | token token =>
      have listed : token ∈ found.tokens := by
        rw [accounts.tokens]
        exact List.mem_append_left _ (List.mem_filterMap.mpr ⟨_, inside, rfl⟩)
      exact .inr ⟨token, rfl, noString token listed⟩
  | malformed text report =>
      have reported : report ∈ found.diagnostics := by
        rw [accounts.diagnostics]
        exact List.mem_filterMap.mpr ⟨_, inside, rfl⟩
      rw [clean] at reported
      cases reported

/-- A cursor in front of a character reads an element and moves behind it. -/
theorem Cursor.exists_next {cursor : Cursor} (inside : cursor.rest ≠ []) :
    ∃ reading moved passed, cursor.next = .ok (reading, moved) ∧ passed ≠ [] ∧
      cursor.rest = passed ++ moved.rest ∧ moved.position = cursor.position.after passed := by
  obtain ⟨head, rest, whole⟩ := List.exists_cons_of_ne_nil inside
  obtain ⟨behind, split⟩ := scan_text_prefix head rest
  refine ⟨cursor.reading (scan head rest), cursor.advance (scan head rest).text.length,
    (scan head rest).text, ?_, scan_text_ne_nil head rest, ?_, ?_⟩
  · simp only [Cursor.next, whole]
  · simp only [Cursor.advance, whole, ← split, List.drop_left]
  · simp only [Cursor.advance, whole, ← split, List.take_left]

/-- The elements of a text account for it. -/
theorem fallsInto_elements (file source : String) :
    FallsInto file .start source.toList
      (Piece.ofElements file .start (elements source.toList)) :=
  (cuts_elements source.toList).fallsInto

theorem accounts_tokenize (file source : String) :
    Accounts file source.toList (tokenize file source)
      (Piece.ofElements file .start (elements source.toList)) := by
  apply (fallsInto_elements file source).accounts
  · rw [Piece.filterMap_token?_ofElements]
    rfl
  · rw [Piece.filterMap_report?_ofElements]
    rfl

/-- **Scanning loses nothing.** A text falls into blanks, comments, tokens and malformed pieces that
account for all of its tokens and diagnostics, and the end of the input is located behind the last
character. Without malformed pieces, comments and strings, the lexemes put together are the text
without its blanks. Wherever a cursor stands in front of a character, reading succeeds and moves it
over at least one. -/
theorem tokenize_lossless (file source : String) :
    (∃ pieces, Accounts file source.toList (tokenize file source) pieces ∧
      ((tokenize file source).diagnostics = [] →
        (∀ text, .comment text ∉ pieces) →
        (∀ token ∈ (tokenize file source).tokens, token.kind ≠ .string) →
        (tokenize file source).tokens.flatMap (fun token => token.lexeme.toList) =
          source.toList.filter fun c => !isBlank c)) ∧
    (Position.start.after source.toList).offset = source.length ∧
    ∀ cursor : Cursor, cursor.rest ≠ [] →
      ∃ reading moved passed, cursor.next = .ok (reading, moved) ∧ passed ≠ [] ∧
        cursor.rest = passed ++ moved.rest ∧ moved.position = cursor.position.after passed := by
  have accounts := accounts_tokenize file source
  refine ⟨⟨_, accounts, ?_⟩, ?_, fun _ => Cursor.exists_next⟩
  · intro clean noComment noString
    rw [accounts.tokens, List.flatMap_append,
      (fallsInto_elements file source).lexemes_eq_filter
        (accounts.plain clean noComment noString)]
    -- The end of the input has an empty lexeme.
    exact List.append_nil _
  · rw [Position.offset_after]
    exact Nat.zero_add _

end NumericLanguage
