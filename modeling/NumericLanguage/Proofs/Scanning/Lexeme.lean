import NumericLanguage.Proofs.Number.Rounding

/-!
# The lexical grammar

A lexeme is a text of one of seven forms: a blank, a comment to the end of its line, a comment with
a closing sign, a string, a number, a word, or an operator. Whether a text has a form depends on
what stands behind it in one case only: a comment to the end of its line has to reach that end.

Where a scan starts it takes the longest lexeme (`Scans.lexeme`). A comment that is never closed
comes first and takes everything; where there is no lexeme at all, a string that is left open is
taken as far as it goes, and otherwise a single character.

The grammar says nothing about how a scan proceeds. The first character leaves few forms open
(`Lexeme.form_mem`).
-/

set_option autoImplicit false

namespace NumericLanguage

/-! ## Forms -/

/-- The forms of the lexical grammar. -/
inductive LexicalForm
  | blank
  | lineComment
  | blockComment
  | string
  | number
  | word
  | operator
  deriving DecidableEq, Repr

/-- The value of a keyword that stands for a truth value. -/
def Keyword.truth? : Keyword → Option Literal
  | trueWord => some (.truth true)
  | falseWord => some (.truth false)
  | _ => none

/-- The first `*/` in a text and a `*/` behind it is the one behind it. -/
def ClosesFirst (body : List Char) : Prop :=
  ∀ front behind, body ++ ['*', '/'] = front ++ '*' :: '/' :: behind → body.length ≤ front.length

/-- A text without `*/`. -/
def NeverCloses (text : List Char) : Prop :=
  ∀ front behind, text ≠ front ++ '*' :: '/' :: behind

/-- A text of some form, the text behind it, and what it is. -/
inductive Lexeme : LexicalForm → List Char → List Char → Form → Prop
  | blank {c : Char} {rest : List Char} :
      c ∈ [' ', '\t', '\r', '\n'] → Lexeme .blank [c] rest .blank
  | lineComment {body rest : List Char} :
      '\n' ∉ body → (∀ next ∈ rest.head?, next = '\n') →
      Lexeme .lineComment ('/' :: '/' :: body) rest .comment
  | blockComment {body rest : List Char} :
      ClosesFirst body →
      Lexeme .blockComment ('/' :: '*' :: (body ++ ['*', '/'])) rest .comment
  | string {body rest : List Char} :
      (∀ c ∈ body, c ≠ '"' ∧ c ≠ '\n') →
      Lexeme .string ('"' :: (body ++ ['"'])) rest
        (.token .string (some (.text (String.ofList body))))
  | integer {digits rest : List Char} :
      digits ≠ [] → (∀ c ∈ digits, c.isDigit = true) →
      Number.decimalValue digits ≤ Nat.pow 2 63 - 1 →
      Lexeme .number digits rest
        (.token .integer (some (.integer (Number.decimalValue digits))))
  | largeInteger {digits rest : List Char} :
      digits ≠ [] → (∀ c ∈ digits, c.isDigit = true) →
      Nat.pow 2 63 - 1 < Number.decimalValue digits →
      Lexeme .number digits rest
        (.malformed (.invalidNumber (String.ofList digits) integerOutOfRange))
  /-- A real number less than `leastInfinite` (`isInfinite_realValue_iff`). -/
  | real {whole fraction rest : List Char} :
      whole ≠ [] → (∀ c ∈ whole, c.isDigit = true) →
      fraction ≠ [] → (∀ c ∈ fraction, c.isDigit = true) →
      (realValue whole fraction).isInfinite = false →
      Lexeme .number (whole ++ '.' :: fraction) rest
        (.token .real (some (.real (realValue whole fraction))))
  /-- A real number from `leastInfinite` on. -/
  | largeReal {whole fraction rest : List Char} :
      whole ≠ [] → (∀ c ∈ whole, c.isDigit = true) →
      fraction ≠ [] → (∀ c ∈ fraction, c.isDigit = true) →
      (realValue whole fraction).isInfinite = true →
      Lexeme .number (whole ++ '.' :: fraction) rest
        (.malformed (.invalidNumber (String.ofList (whole ++ '.' :: fraction)) realOutOfRange))
  | keyword {word : Keyword} {rest : List Char} :
      Lexeme .word word.spelling rest (.token (.keyword word) word.truth?)
  | identifier {first : Char} {others rest : List Char} :
      first.isAlpha = true ∨ first = '_' → (∀ c ∈ others, c.isAlphanum = true ∨ c = '_') →
      (∀ word : Keyword, word.spelling ≠ first :: others) →
      Lexeme .word (first :: others) rest
        (.token .identifier (some (.text (String.ofList (first :: others)))))
  | operator {text rest : List Char} {sign : Operator} :
      Operator.ofSpelling? text = some sign →
      Lexeme .operator text rest (.token (.operator sign) none)

/-! ## What a scan finds -/

/-- A text that begins with no lexeme. -/
def NoLexeme (input : List Char) : Prop :=
  ∀ form text rest result, Lexeme form text rest result → text ++ rest ≠ input

/-- No lexeme at the beginning of a text is longer than a given one. -/
def IsLongest (text input : List Char) : Prop :=
  ∀ form longer rest result, Lexeme form longer rest result → longer ++ rest = input →
    longer.length ≤ text.length

/-- A text that begins with a comment that is never closed. -/
def OpensComment (input : List Char) : Prop :=
  ∃ behind, input = '/' :: '*' :: behind ∧ NeverCloses behind

/-- The element that a text begins with. -/
inductive Scans : List Char → Element → Prop
  /-- A comment that is never closed takes up everything. -/
  | openComment {input : List Char} :
      OpensComment input → Scans input ⟨input, .malformed .unterminatedComment⟩
  /-- The longest lexeme. -/
  | lexeme {form : LexicalForm} {text rest : List Char} {result : Form} :
      ¬ OpensComment (text ++ rest) → Lexeme form text rest result →
      IsLongest text (text ++ rest) → Scans (text ++ rest) ⟨text, result⟩
  /-- A string that its line does not close takes up the newline. -/
  | openLine {body rest : List Char} :
      NoLexeme ('"' :: (body ++ '\n' :: rest)) → (∀ c ∈ body, c ≠ '"' ∧ c ≠ '\n') →
      Scans ('"' :: (body ++ '\n' :: rest))
        ⟨'"' :: (body ++ ['\n']), .malformed (.unterminatedString true)⟩
  /-- A string that the last line does not close takes up everything. -/
  | openText {body : List Char} :
      NoLexeme ('"' :: body) → (∀ c ∈ body, c ≠ '"' ∧ c ≠ '\n') →
      Scans ('"' :: body) ⟨'"' :: body, .malformed (.unterminatedString false)⟩
  /-- A sign that is only written twice in a row. -/
  | loneSign {c : Char} {rest : List Char} :
      NoLexeme (c :: rest) → c = '&' ∨ c = '|' →
      Scans (c :: rest) ⟨[c], .malformed (.incompleteOperator c.toString)⟩
  /-- Any other character with which no lexeme begins. -/
  | stray {c : Char} {rest : List Char} :
      NoLexeme (c :: rest) → c ≠ '"' → c ≠ '&' → c ≠ '|' →
      Scans (c :: rest) ⟨[c], .malformed (.unexpected c.toString)⟩

/-- A text and the elements that it consists of, one scan behind the other. -/
inductive Cuts : List Char → List Element → Prop
  | nil : Cuts [] []
  | cons {rest : List Char} {element : Element} {others : List Element} :
      Scans (element.text ++ rest) element → Cuts rest others →
      Cuts (element.text ++ rest) (element :: others)

/-! ## First characters -/

/-- The forms that may begin with a character. -/
def formsOf (c : Char) : List LexicalForm :=
  if isBlank c then [.blank]
  else if c = '/' then [.lineComment, .blockComment, .operator]
  else if c = '"' then [.string]
  else if c.isDigit then [.number]
  else if startsWord c then [.word]
  else [.operator]

theorem isBlank_iff {c : Char} : isBlank c = true ↔ c ∈ [' ', '\t', '\r', '\n'] := by
  simp [isBlank, or_assoc]

theorem startsWord_iff {c : Char} : startsWord c = true ↔ c.isAlpha = true ∨ c = '_' := by
  simp [startsWord]

theorem continuesWord_iff {c : Char} :
    continuesWord c = true ↔ c.isAlphanum = true ∨ c = '_' := by
  simp [continuesWord]

theorem continuesString_iff {c : Char} : continuesString c = true ↔ c ≠ '"' ∧ c ≠ '\n' := by
  simp [continuesString]

/-- A word goes on with the characters with which it begins, and with others. -/
theorem continuesWord_of_startsWord {c : Char} (starts : startsWord c = true) :
    continuesWord c = true := by
  rw [continuesWord_iff]
  rcases startsWord_iff.mp starts with letter | underscore
  · exact .inl (by simp [Char.isAlphanum, letter])
  · exact .inr underscore

/-- No word begins with a digit. -/
theorem startsWord_of_isDigit {c : Char} (digit : c.isDigit = true) : startsWord c = false := by
  have upTo : c.val ≤ '9'.val := of_decide_eq_true (Bool.and_eq_true_iff.mp digit).2
  have notFrom : ∀ first : Char, '9'.val < first.val → ¬ first.val ≤ c.val :=
    fun _ later below => UInt32.not_lt.mpr (UInt32.le_trans below upTo) later
  rw [Bool.eq_false_iff]
  intro starts
  rcases startsWord_iff.mp starts with letter | rfl
  · rcases Bool.or_eq_true_iff.mp letter with upper | lower
    · exact notFrom 'A' (by decide) (of_decide_eq_true upper).1
    · exact notFrom 'a' (by decide) (of_decide_eq_true (Bool.and_eq_true_iff.mp lower).1)
  · exact absurd digit (by decide)

/-- A word goes on with digits. -/
theorem continuesWord_of_isDigit {c : Char} (digit : c.isDigit = true) :
    continuesWord c = true :=
  continuesWord_iff.mpr (.inl (by simp [Char.isAlphanum, digit]))

/-- No word goes on with a character that is none of a word. -/
theorem ne_of_continuesWord {c other : Char} (continues : continuesWord c = true)
    (stops : continuesWord other = false) : c ≠ other := by
  rintro rfl
  rw [continues] at stops
  cases stops

/-- A word ends at a blank. -/
theorem isBlank_of_continuesWord {c : Char} (continues : continuesWord c = true) :
    isBlank c = false := by
  rw [Bool.eq_false_iff]
  intro blank
  rcases (by simpa using isBlank_iff.mp blank) with rfl | rfl | rfl | rfl <;>
    exact absurd continues (by decide)

theorem formsOf_of_isBlank {c : Char} (blank : isBlank c = true) : formsOf c = [.blank] := by
  simp [formsOf, blank]

theorem formsOf_of_isDigit {c : Char} (digit : c.isDigit = true) : formsOf c = [.number] := by
  have continues := continuesWord_of_isDigit digit
  have notSlash : c ≠ '/' := ne_of_continuesWord continues (by decide)
  have notQuote : c ≠ '"' := ne_of_continuesWord continues (by decide)
  simp [formsOf, isBlank_of_continuesWord continues, notSlash, notQuote, digit]

theorem formsOf_of_startsWord {c : Char} (starts : startsWord c = true) :
    formsOf c = [.word] := by
  have continues := continuesWord_of_startsWord starts
  have notSlash : c ≠ '/' := ne_of_continuesWord continues (by decide)
  have notQuote : c ≠ '"' := ne_of_continuesWord continues (by decide)
  have notDigit : c.isDigit = false := by
    rw [Bool.eq_false_iff]
    intro digit
    exact absurd (startsWord_of_isDigit digit) (by simp [starts])
  simp [formsOf, isBlank_of_continuesWord continues, notSlash, notQuote, notDigit, starts]

/-! ## Operators -/

theorem Operator.mem_spellings {text : List Char} {sign : Operator}
    (spelled : Operator.ofSpelling? text = some sign) : (text, sign) ∈ Operator.spellings := by
  obtain ⟨front, behind, split, -⟩ := List.lookup_eq_some_iff.mp spelled
  rw [split]
  exact List.mem_append_right front List.mem_cons_self

/-- An operator has one or two characters. -/
theorem Operator.length_of_spelling {text : List Char} {sign : Operator}
    (spelled : Operator.ofSpelling? text = some sign) : text.length = 1 ∨ text.length = 2 := by
  have entries : ∀ entry ∈ Operator.spellings, entry.1.length = 1 ∨ entry.1.length = 2 := by
    decide
  exact entries _ (mem_spellings spelled)

/-- No other form begins with a character of an operator, except comments. -/
theorem Operator.form_mem {text : List Char} {sign : Operator}
    (spelled : Operator.ofSpelling? text = some sign) :
    ∀ c ∈ text, LexicalForm.operator ∈ formsOf c := by
  have entries : ∀ entry ∈ Operator.spellings,
      entry.1.all (fun c => LexicalForm.operator ∈ formsOf c) = true := by
    decide
  intro c inside
  exact of_decide_eq_true (List.all_eq_true.mp (entries _ (mem_spellings spelled)) c inside)

/-- An operator holds no blank. -/
theorem Operator.isBlank_of_spelling {text : List Char} {sign : Operator}
    (spelled : Operator.ofSpelling? text = some sign) : ∀ c ∈ text, isBlank c = false := by
  have entries : ∀ entry ∈ Operator.spellings,
      entry.1.all (fun c => isBlank c = false) = true := by
    decide
  intro c inside
  exact of_decide_eq_true (List.all_eq_true.mp (entries _ (mem_spellings spelled)) c inside)

/-! ## Keywords -/

/-- A keyword is spelled like an identifier. -/
theorem Keyword.exists_spelling (word : Keyword) :
    ∃ first others, word.spelling = first :: others ∧ startsWord first = true ∧
      ∀ c ∈ others, continuesWord c = true := by
  cases word <;> exact ⟨_, _, rfl, by decide, List.all_eq_true.mp (by decide)⟩

/-! ## The texts of lexemes -/

namespace Lexeme

variable {form : LexicalForm} {text rest : List Char} {result : Form}

/-- A word is a letter or an underscore, and more of them and digits. -/
theorem word_shape (lexeme : Lexeme .word text rest result) :
    ∃ first others, text = first :: others ∧ startsWord first = true ∧
      ∀ c ∈ others, continuesWord c = true := by
  cases lexeme with
  | keyword => exact Keyword.exists_spelling _
  | identifier first others =>
      exact ⟨_, _, rfl, startsWord_iff.mpr first, fun c inside =>
        continuesWord_iff.mpr (others c inside)⟩

/-- A number is a run of digits, alone or in front of a point and more digits. -/
theorem number_shape (lexeme : Lexeme .number text rest result) :
    ∃ whole, whole ≠ [] ∧ (∀ c ∈ whole, c.isDigit = true) ∧
      (text = whole ∨ ∃ fraction, fraction ≠ [] ∧ (∀ c ∈ fraction, c.isDigit = true) ∧
        text = whole ++ '.' :: fraction) := by
  cases lexeme with
  | integer some digits _ => exact ⟨text, some, digits, .inl rfl⟩
  | largeInteger some digits _ => exact ⟨text, some, digits, .inl rfl⟩
  | real some digits behind more _ => exact ⟨_, some, digits, .inr ⟨_, behind, more, rfl⟩⟩
  | largeReal some digits behind more _ => exact ⟨_, some, digits, .inr ⟨_, behind, more, rfl⟩⟩

/-- **The first character leaves few forms open.** -/
theorem form_mem (lexeme : Lexeme form text rest result) :
    ∃ first others, text = first :: others ∧ form ∈ formsOf first := by
  cases form with
  | number =>
      obtain ⟨whole, some, digits, shape⟩ := lexeme.number_shape
      obtain ⟨first, others, rfl⟩ := List.exists_cons_of_ne_nil some
      have digit := digits first List.mem_cons_self
      rcases shape with rfl | ⟨fraction, -, -, rfl⟩
      · exact ⟨first, others, rfl, by simp [formsOf_of_isDigit digit]⟩
      · exact ⟨first, others ++ '.' :: fraction, rfl, by simp [formsOf_of_isDigit digit]⟩
  | word =>
      obtain ⟨first, others, rfl, starts, -⟩ := lexeme.word_shape
      exact ⟨first, others, rfl, by simp [formsOf_of_startsWord starts]⟩
  | operator =>
      cases lexeme with
      | operator spelled =>
          have length := Operator.length_of_spelling spelled
          cases text with
          | nil => simp at length
          | cons first others =>
              exact ⟨first, others, rfl, Operator.form_mem spelled first List.mem_cons_self⟩
  | blank =>
      cases lexeme with
      | blank isBlank =>
          exact ⟨_, [], rfl, by simp [formsOf_of_isBlank (isBlank_iff.mpr isBlank)]⟩
  | lineComment => cases lexeme; exact ⟨_, _, rfl, by decide⟩
  | blockComment => cases lexeme; exact ⟨_, _, rfl, by decide⟩
  | string => cases lexeme; exact ⟨_, _, rfl, by decide⟩

/-- A lexeme is not empty. -/
theorem text_ne_nil (lexeme : Lexeme form text rest result) : text ≠ [] := by
  obtain ⟨first, others, rfl, -⟩ := lexeme.form_mem
  exact List.cons_ne_nil first others

/-- A lexeme at the beginning of a text has a form that may begin with the first character. -/
theorem form_mem_of_append {head : Char} {input : List Char}
    (lexeme : Lexeme form text rest result) (begins : text ++ rest = head :: input) :
    form ∈ formsOf head := by
  obtain ⟨first, others, rfl, member⟩ := lexeme.form_mem
  obtain ⟨rfl, -⟩ := List.cons.inj begins
  exact member

end Lexeme

/-! ## The texts of elements -/

namespace Scans

variable {input : List Char} {element : Element}

/-- What is scanned is not empty. -/
theorem text_ne_nil (scans : Scans input element) : element.text ≠ [] := by
  cases scans with
  | openComment opens =>
      obtain ⟨behind, rfl, -⟩ := opens
      exact List.cons_ne_nil _ _
  | lexeme _ lexeme _ => exact lexeme.text_ne_nil
  | _ => exact List.cons_ne_nil _ _

/-- What is scanned is a lexeme unless it is malformed. -/
theorem exists_lexeme (scans : Scans input element)
    (wellFormed : ∀ fault, element.form ≠ .malformed fault) :
    ∃ form rest, Lexeme form element.text rest element.form := by
  cases scans with
  | lexeme _ lexeme _ => exact ⟨_, _, lexeme⟩
  | _ => exact absurd rfl (wellFormed _)

end Scans

end NumericLanguage
