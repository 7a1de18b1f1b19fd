import Mathlib.Data.List.TakeWhile
import NumericLanguage.Token.Sequence

/-!
# Scanning line by line

Behind a newline, scanning begins anew. A run of characters of one class, a number, a word, a sign
and a string all end at the newline or with it; only a block comment goes on, and one that closes
was closed before. So whatever stands on whole lines is scanned as if nothing followed
(`scan_append`), the elements of two texts put together are those of the first and those of the
second (`elements_append`), and so are the tokens and the diagnostics: those of the second text are
found as many lines and characters further on as the first one has (`tokenize_append`). However
malformed the first lines are, the later ones are read in the same way.
-/

set_option autoImplicit false

namespace NumericLanguage

/-! ## Whole lines -/

/-- A text that is empty or ends with a newline. -/
def WholeLines (text : List Char) : Prop := ∀ c ∈ text.getLast?, c = '\n'

instance (text : List Char) : Decidable (WholeLines text) :=
  Option.decidableForallMem text.getLast?

namespace WholeLines

variable {text behind : List Char} {p : Char → Bool} {c : Char}

theorem of_append (front : List Char) (lines : WholeLines (front ++ behind)) :
    WholeLines behind := by
  intro c last
  refine lines c ?_
  rw [List.getLast?_append, Option.mem_def.mp last]
  rfl

/-- Where a line has begun, it goes on. -/
theorem ne_nil_of_cons (lines : WholeLines (c :: text)) (inLine : c ≠ '\n') : text ≠ [] := by
  rintro rfl
  exact inLine (lines c rfl)

theorem mem_newline (lines : WholeLines text) (nonempty : text ≠ []) : '\n' ∈ text := by
  rw [← lines (text.getLast nonempty) (List.getLast?_eq_some_getLast nonempty)]
  exact List.getLast_mem nonempty

/-- A class that a newline is not of runs out within whole lines. -/
theorem dropWhile_ne_nil (lines : WholeLines text) (nonempty : text ≠ []) (stops : p '\n' = false) :
    text.dropWhile p ≠ [] := by
  intro all
  have inside := List.dropWhile_eq_nil_iff.mp all '\n' (lines.mem_newline nonempty)
  rw [stops] at inside
  cases inside

theorem dropWhile_append (lines : WholeLines text) (nonempty : text ≠ []) (stops : p '\n' = false)
    (more : List Char) : (text ++ more).dropWhile p = text.dropWhile p ++ more := by
  rw [List.dropWhile_append, if_neg]
  simpa using lines.dropWhile_ne_nil nonempty stops

theorem takeWhile_append (lines : WholeLines text) (nonempty : text ≠ []) (stops : p '\n' = false)
    (more : List Char) : (text ++ more).takeWhile p = text.takeWhile p := by
  -- Both texts begin with the same run; what is dropped tells how long it is.
  have whole := List.takeWhile_append_dropWhile (p := p) (l := text ++ more)
  rw [lines.dropWhile_append nonempty stops, ← List.append_assoc] at whole
  have run := List.append_cancel_right whole
  exact List.append_cancel_right (run.trans List.takeWhile_append_dropWhile.symm)

theorem dropWhile (lines : WholeLines text) : WholeLines (text.dropWhile p) := by
  rw [← List.takeWhile_append_dropWhile (p := p) (l := text)] at lines
  exact lines.of_append _

end WholeLines

/-! ## One element -/

theorem throughClosing_append {text closed : List Char} (found : throughClosing text = some closed)
    (more : List Char) : throughClosing (text ++ more) = some closed := by
  induction text using throughClosing.induct generalizing closed with
  | case1 => simp [throughClosing] at found
  | case2 behind =>
      simp only [throughClosing] at found ⊢
      exact found
  | case3 c rest notClosing ih =>
      rw [throughClosing.eq_3 c rest notClosing] at found
      obtain ⟨inner, innerFound, rfl⟩ := Option.map_eq_some_iff.mp found
      obtain ⟨next, others, rfl⟩ : ∃ next others, rest = next :: others := by
        cases rest with
        | nil => simp [throughClosing] at innerFound
        | cons next others => exact ⟨next, others, rfl⟩
      have stillNot : ∀ behind, c = '*' → next :: others ++ more = '/' :: behind → False := by
        intro behind star slash
        exact notClosing others star (congrArg (· :: others) (List.cons.inj slash).1)
      rw [List.cons_append, throughClosing.eq_3 c _ stillNot, ih innerFound]
      rfl

section Scanning

variable {head : Char} {rest : List Char}

theorem scanLineComment_append (lines : WholeLines rest) (nonempty : rest ≠ []) (more : List Char) :
    scanLineComment (rest ++ more) = scanLineComment rest := by
  rw [scanLineComment, lines.takeWhile_append nonempty (by decide), scanLineComment]

/-- A comment that closes is closed by its own sign, whatever follows. -/
theorem scanBlockComment_append
    (closed : (scanBlockComment rest).form ≠ .malformed .unterminatedComment)
    (more : List Char) : scanBlockComment (rest ++ more) = scanBlockComment rest := by
  cases found : throughClosing rest with
  | none => exact absurd (by rw [scanBlockComment, found]) closed
  | some text => rw [scanBlockComment, throughClosing_append found, scanBlockComment, found]

/-- A string ends on its line, with its quote or with the newline. -/
theorem scanString_append (lines : WholeLines rest) (nonempty : rest ≠ []) (more : List Char) :
    scanString (rest ++ more) = scanString rest := by
  have inside : continuesString '\n' = false := by decide
  obtain ⟨c, behind, stop⟩ := List.exists_cons_of_ne_nil (lines.dropWhile_ne_nil nonempty inside)
  have ends : c = '"' ∨ c = '\n' := by
    have stopped := List.head?_dropWhile_not continuesString rest
    rw [stop] at stopped
    simpa [continuesString, or_iff_not_imp_left] using stopped
  simp only [scanString, lines.dropWhile_append nonempty inside,
    lines.takeWhile_append nonempty inside, stop, List.cons_append]
  rcases ends with rfl | rfl
  · rfl
  · rfl

/-- A point is followed by a character of its own line. -/
theorem fractionDigits_append (lines : WholeLines rest) (nonempty : rest ≠ []) (more : List Char) :
    fractionDigits (rest ++ more) = fractionDigits rest := by
  obtain ⟨c, behind, rfl⟩ := List.exists_cons_of_ne_nil nonempty
  by_cases point : c = '.'
  · subst point
    have goesOn := lines.ne_nil_of_cons (by decide)
    exact (lines.of_append ['.']).takeWhile_append goesOn (by decide) more
  · have noPoint : ∀ text digits, c :: text = '.' :: digits → False :=
      fun _ _ same => point (List.cons.inj same).1
    rw [List.cons_append, fractionDigits.eq_2 _ (noPoint _), fractionDigits.eq_2 _ (noPoint _)]

theorem scanNumber_append (lines : WholeLines rest) (nonempty : rest ≠ []) (more : List Char) :
    scanNumber (rest ++ more) = scanNumber rest := by
  have stops : Char.isDigit '\n' = false := by decide
  simp only [scanNumber, lines.takeWhile_append nonempty stops,
    lines.dropWhile_append nonempty stops, fractionDigits_append lines.dropWhile
      (lines.dropWhile_ne_nil nonempty stops)]

theorem scanWord_append (lines : WholeLines rest) (nonempty : rest ≠ []) (more : List Char) :
    scanWord (rest ++ more) = scanWord rest := by
  rw [scanWord, lines.takeWhile_append nonempty (by decide), scanWord]

/-- A sign looks one character ahead, and that one is there. -/
theorem scanSign_append (nonempty : rest ≠ []) (more : List Char) :
    scanSign head (rest ++ more) = scanSign head rest := by
  obtain ⟨next, others, rfl⟩ := List.exists_cons_of_ne_nil nonempty
  rfl

/-- **What stands on whole lines is scanned as if nothing followed**, a comment that stays open
apart. -/
theorem scan_append (lines : WholeLines (head :: rest))
    (closed : (scan head rest).form ≠ .malformed .unterminatedComment) (more : List Char) :
    scan head (rest ++ more) = scan head rest := by
  by_cases newline : head = '\n'
  · subst newline
    rfl
  have nonempty : rest ≠ [] := lines.ne_nil_of_cons newline
  have behind : WholeLines rest := lines.of_append [head]
  obtain ⟨next, others, same⟩ := List.exists_cons_of_ne_nil nonempty
  have first : (rest ++ more).head? = rest.head? := by rw [same]; rfl
  have tail : (rest ++ more).tail = rest.tail ++ more := by rw [same]; rfl
  have comment := scanLineComment_append behind nonempty more
  have string := scanString_append behind nonempty more
  have number := scanNumber_append lines (List.cons_ne_nil head rest) more
  have word := scanWord_append lines (List.cons_ne_nil head rest) more
  have sign : scanSign head (rest ++ more) = scanSign head rest := scanSign_append nonempty more
  rw [List.cons_append] at number word
  unfold scan at closed ⊢
  rw [first, tail, comment, string, number, word, sign]
  -- Only the comment that may stay open is left.
  split_ifs at closed ⊢ with blank lineComment blockComment
  all_goals try rfl
  exact scanBlockComment_append closed more

end Scanning

/-! ## Elements -/

theorem elements_append {first : List Char} (lines : WholeLines first)
    (closed : ∀ element ∈ elements first, element.form ≠ .malformed .unterminatedComment)
    (second : List Char) : elements (first ++ second) = elements first ++ elements second := by
  -- The induction is on the length: the text behind an element is shorter, and still whole lines.
  induction size : first.length using Nat.strongRecOn generalizing first with
  | ind bound ih =>
      cases first with
      | nil => rfl
      | cons head rest =>
          obtain ⟨behind, split⟩ := scan_text_prefix head rest
          have same := scan_append lines (closed _ (by simp [elements_cons])) second
          rw [elements_cons, ← split, List.drop_left] at closed
          have shorter : behind.length < bound := by
            have total := congrArg List.length split
            have positive := List.length_pos_iff.mpr (scan_text_ne_nil head rest)
            rw [List.length_append, size] at total
            omega
          rw [← split] at lines
          have others := ih _ shorter (lines.of_append _)
            (fun element inside => closed element (List.mem_cons_of_mem _ inside)) rfl
          rw [List.cons_append, elements_cons, elements_cons, same, ← List.cons_append, ← split,
            List.append_assoc, List.drop_left, List.drop_left, others, List.cons_append]

/-- The pieces behind a run of elements begin where its text ends. -/
theorem placed_append (position : Position) (front behind : List Element) :
    placed position (front ++ behind) =
      placed position front ++ placed (position.after (front.flatMap Element.text)) behind := by
  induction front generalizing position with
  | nil => rfl
  | cons element others ih =>
      rw [List.cons_append, placed, placed, ih, List.flatMap_cons, Position.after_append,
        List.cons_append]

/-- Every element has its place. -/
theorem exists_mem_placed (position : Position) {pieces : List Element} {element : Element}
    (inside : element ∈ pieces) : ∃ place, (place, element) ∈ placed position pieces := by
  obtain ⟨front, behind, rfl⟩ := List.append_of_mem inside
  exact ⟨position.after (front.flatMap Element.text), by simp [placed_append, placed]⟩

/-! ## The places behind a text -/

/-- A location after a text was put in front of its own. -/
def Location.behind (location : Location) (text : List Char) : Location :=
  { location with
    line := location.line + text.count '\n'
    offset := location.offset + text.length }

/-- A token after a text was put in front of its own. -/
def Token.behind (token : Token) (text : List Char) : Token :=
  { token with location := token.location.behind text }

/-- A diagnostic after a text was put in front of its own. -/
def Diagnostic.behind (diagnostic : Diagnostic) (text : List Char) : Diagnostic :=
  { diagnostic with location := diagnostic.location.behind text }

namespace Position

/-- A position after a text was put in front of its own. -/
def behind (position : Position) (text : List Char) : Position :=
  ⟨position.line + text.count '\n', position.column, position.offset + text.length⟩

theorem within_behind (position : Position) (text : List Char) (file : String) :
    (position.behind text).within file = (position.within file).behind text := by
  simp [behind, within, Location.behind]

theorem next_behind (position : Position) (text : List Char) (c : Char) :
    (position.behind text).next c = (position.next c).behind text := by
  unfold next
  split
  · simp only [behind]
    congr 1
    · omega
    · omega
  · simp only [behind]
    congr 1
    omega

theorem after_behind (position : Position) (text more : List Char) :
    (position.behind text).after more = (position.after more).behind text := by
  induction more generalizing position with
  | nil => rfl
  | cons c more ih => rw [after_cons, after_cons, next_behind, ih]

theorem line_after (position : Position) (text : List Char) :
    (position.after text).line = position.line + text.count '\n' := by
  induction text generalizing position with
  | nil => rfl
  | cons c text ih =>
      rw [after_cons, ih, next]
      by_cases newline : c = '\n'
      · subst newline
        simp only [if_true, List.count_cons_self]
        omega
      · simp only [newline, if_false, List.count_cons_of_ne newline]

/-- Whole lines leave the column where they found it: at the beginning of a line. -/
theorem start_after {text : List Char} (lines : WholeLines text) :
    start.after text = start.behind text := by
  have column : (start.after text).column = 1 := by
    rcases List.eq_nil_or_concat text with rfl | ⟨front, c, rfl⟩
    · rfl
    · obtain rfl := lines c (by simp)
      simp [after_append, next]
  have line := line_after start text
  have offset := offset_after start text
  cases place : start.after text with
  | mk lineThere columnThere offsetThere =>
      rw [place] at line column offset
      rw [behind]
      congr 1

end Position

namespace Element

variable (file : String) (position : Position) (text : List Char) (element : Element)

theorem token?_behind :
    element.token? file (position.behind text) =
      (element.token? file position).map (·.behind text) := by
  unfold token?
  rw [Position.within_behind]
  split
  · rfl
  · rfl

theorem diagnostic?_behind :
    element.diagnostic? file (position.behind text) =
      (element.diagnostic? file position).map (·.behind text) := by
  unfold diagnostic?
  rw [Position.within_behind]
  split
  · rfl
  · rfl

end Element

theorem placed_behind (position : Position) (text : List Char) (pieces : List Element) :
    placed (position.behind text) pieces =
      (placed position pieces).map fun piece => (piece.1.behind text, piece.2) := by
  induction pieces generalizing position with
  | nil => rfl
  | cons element others ih => rw [placed, placed, Position.after_behind, ih, List.map_cons]

/-! ## Two texts put together -/

/-- A text is scanned without an open comment where that fault is not among its diagnostics. -/
theorem closed_of_diagnostics {file source : String}
    (closed : ∀ diagnostic ∈ (tokenize file source).diagnostics, diagnostic.code ≠ some "L004") :
    ∀ element ∈ elements source.toList, element.form ≠ .malformed .unterminatedComment := by
  intro element inside form
  obtain ⟨position, place⟩ := exists_mem_placed Position.start inside
  have recorded : LexicalFault.unterminatedComment.diagnostic (position.within file) ∈
      (tokenize file source).diagnostics :=
    List.mem_filterMap.mpr ⟨_, place, by simp [Element.diagnostic?, form]⟩
  exact closed _ recorded rfl

/-- **Texts are scanned line by line.** Behind whole lines without an open comment, the tokens and
the diagnostics of a text are its own, so many lines and characters further on. -/
theorem tokenize_append (file : String) (first second : String) (lines : WholeLines first.toList)
    (closed : ∀ diagnostic ∈ (tokenize file first).diagnostics, diagnostic.code ≠ some "L004") :
    (tokenize file (first ++ second)).tokens =
        (tokenize file first).tokens.dropLast ++
          (tokenize file second).tokens.map (·.behind first.toList) ∧
      (tokenize file (first ++ second)).diagnostics =
        (tokenize file first).diagnostics ++
          (tokenize file second).diagnostics.map (·.behind first.toList) := by
  have whole : placed Position.start (elements (first ++ second).toList) =
      placed Position.start (elements first.toList) ++
        (placed Position.start (elements second.toList)).map
          fun piece => (piece.1.behind first.toList, piece.2) := by
    rw [String.toList_append, elements_append lines (closed_of_diagnostics closed), placed_append,
      elements_text, Position.start_after lines, placed_behind]
  have final : Position.start.after (first ++ second).toList =
      (Position.start.after second.toList).behind first.toList := by
    rw [String.toList_append, Position.after_append, Position.start_after lines,
      Position.after_behind]
  refine ⟨?_, ?_⟩
  · simp only [tokenize, whole, final, List.filterMap_append, List.filterMap_map, Function.comp_def,
      Element.token?_behind, ← List.map_filterMap, List.dropLast_concat, List.map_append,
      Position.within_behind, List.append_assoc]
    rfl
  · simp only [tokenize, whole, List.filterMap_append, List.filterMap_map, Function.comp_def,
      Element.diagnostic?_behind, ← List.map_filterMap]

/-- Behind a string that is broken by its line, a name is the token that it is alone. -/
theorem tokenize_append_broken_string :
    (tokenize "lines" ("\"a\n" ++ "b")).tokens =
        (tokenize "lines" "\"a\n").tokens.dropLast ++
          (tokenize "lines" "b").tokens.map (·.behind "\"a\n".toList) ∧
      (tokenize "lines" ("\"a\n" ++ "b")).diagnostics =
        (tokenize "lines" "\"a\n").diagnostics ++
          (tokenize "lines" "b").diagnostics.map (·.behind "\"a\n".toList) := by
  have broken : (tokenize "lines" "\"a\n").diagnostics =
      [LexicalFault.diagnostic (.unterminatedString true) ⟨"lines", 1, 1, 0⟩] := by
    decide +kernel
  refine tokenize_append "lines" "\"a\n" "b" (by decide) fun diagnostic inside => ?_
  rw [broken, List.mem_singleton] at inside
  rw [inside]
  simp [LexicalFault.diagnostic, LexicalFault.code]

end NumericLanguage
