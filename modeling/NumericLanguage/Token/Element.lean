import NumericLanguage.Token.Fault
import NumericLanguage.Token.Basic

/-!
# Elements of a program text

Read from left to right, a text falls into elements: single blanks, comments, tokens, and pieces
that are malformed. `scan` finds the element that begins at a character. Its text is a nonempty
beginning of what it was given (`scan_text_prefix`, `scan_text_ne_nil`), so that scanning always
moves on, also over malformed text.
-/

set_option autoImplicit false

namespace NumericLanguage

/-! ## Forms and elements -/

/-- What a piece of text is. -/
inductive Form
  | blank
  | comment
  | token (kind : TokenKind) (value : Option Literal)
  | malformed (fault : LexicalFault)
  deriving DecidableEq, Repr

/-- A piece of program text and what it is. -/
structure Element where
  text : List Char
  form : Form
  deriving DecidableEq, Repr

/-! ## Classes of characters -/

/-- A space, a tab, or a character that ends a line. -/
def isBlank (c : Char) : Bool := c = ' ' || c = '\t' || c = '\r' || c = '\n'

/-- A letter or an underscore, with which a word begins. -/
def startsWord (c : Char) : Bool := c.isAlpha || c = '_'

/-- A letter, a digit or an underscore, with which a word goes on. -/
def continuesWord (c : Char) : Bool := c.isAlphanum || c = '_'

/-! ## Comments -/

/-- A comment from `//` to the end of its line, given the text behind the first slash. -/
def scanLineComment (rest : List Char) : Element :=
  ⟨'/' :: rest.takeWhile (fun c => c ≠ '\n'), .comment⟩

/-- A text up to and including its first `*/`. -/
def throughClosing : List Char → Option (List Char)
  | [] => none
  | '*' :: '/' :: _ => some ['*', '/']
  | c :: rest => (throughClosing rest).map fun closed => c :: closed

/-- A comment from `/*` to the next `*/`, given the text behind the opening sign. Without a
closing sign it extends to the end of the text. -/
def scanBlockComment (rest : List Char) : Element :=
  match throughClosing rest with
  | some closed => ⟨'/' :: '*' :: closed, .comment⟩
  | none => ⟨'/' :: '*' :: rest, .malformed .unterminatedComment⟩

/-! ## Strings -/

/-- A character that a string may hold. -/
def continuesString (c : Char) : Bool := c ≠ '"' && c ≠ '\n'

/-- A string, given the text behind its opening quote. It must close on its own line; the
newline belongs to the malformed text. -/
def scanString (rest : List Char) : Element :=
  match rest.dropWhile continuesString with
  | [] => ⟨'"' :: rest.takeWhile continuesString, .malformed (.unterminatedString false)⟩
  | '"' :: _ =>
      ⟨'"' :: (rest.takeWhile continuesString ++ ['"']),
        .token .string (some (.text (String.ofList (rest.takeWhile continuesString))))⟩
  | c :: _ =>
      ⟨'"' :: (rest.takeWhile continuesString ++ [c]), .malformed (.unterminatedString true)⟩

/-! ## Numbers -/

/-- The greatest value of an integer literal. -/
def maxInteger : Nat := Nat.pow 2 63 - 1

/-- Why an integer literal is refused. -/
def integerOutOfRange : String := "Integer literals must not exceed " ++ toString maxInteger

/-- Why a real literal is refused. -/
def realOutOfRange : String := "Real literal is out of range"

/-- The form of a run of digits without a fraction. -/
def integerForm (digits : List Char) : Form :=
  if Number.decimalValue digits ≤ maxInteger then
    .token .integer (some (.integer (Number.decimalValue digits)))
  else .malformed (.invalidNumber (String.ofList digits) integerOutOfRange)

/-- The double nearest to the number with the given digits before and behind its point. -/
def realValue (whole fraction : List Char) : Binary64 :=
  Binary64.ofDecimal false (Number.decimalValue (whole ++ fraction)) (-fraction.length)

/-- The form of digits before and behind a point. -/
def realForm (whole fraction : List Char) : Form :=
  if (realValue whole fraction).isInfinite then
    .malformed (.invalidNumber (String.ofList (whole ++ '.' :: fraction)) realOutOfRange)
  else .token .real (some (.real (realValue whole fraction)))

/-- The digits behind a point, given the text from the point on; none without a point. -/
def fractionDigits : List Char → List Char
  | '.' :: rest => rest.takeWhile Char.isDigit
  | _ => []

/-- A number. It has a fraction only if a digit follows the point. -/
def scanNumber (characters : List Char) : Element :=
  match fractionDigits (characters.dropWhile Char.isDigit) with
  | [] =>
      ⟨characters.takeWhile Char.isDigit, integerForm (characters.takeWhile Char.isDigit)⟩
  | digit :: digits =>
      ⟨characters.takeWhile Char.isDigit ++ '.' :: digit :: digits,
        realForm (characters.takeWhile Char.isDigit) (digit :: digits)⟩

/-! ## Words -/

/-- The form of a whole word. -/
def wordForm (text : List Char) : Form :=
  match Keyword.ofSpelling? text with
  | some .trueWord => .token (.keyword .trueWord) (some (.truth true))
  | some .falseWord => .token (.keyword .falseWord) (some (.truth false))
  | some word => .token (.keyword word) none
  | none => .token .identifier (some (.text (String.ofList text)))

/-- A keyword or an identifier. -/
def scanWord (characters : List Char) : Element :=
  ⟨characters.takeWhile continuesWord, wordForm (characters.takeWhile continuesWord)⟩

/-! ## Operators -/

/-- A character with which nothing begins. -/
def strayForm (c : Char) : Form :=
  if c = '&' ∨ c = '|' then .malformed (.incompleteOperator c.toString)
  else .malformed (.unexpected c.toString)

/-- An operator of two characters, or else of one, or else a stray character. -/
def scanSign (head : Char) (rest : List Char) : Element :=
  match Operator.ofSpelling? (head :: rest.take 1) with
  | some sign => ⟨head :: rest.take 1, .token (.operator sign) none⟩
  | none =>
      match Operator.ofSpelling? [head] with
      | some sign => ⟨[head], .token (.operator sign) none⟩
      | none => ⟨[head], strayForm head⟩

/-! ## Scanning -/

/-- The element that begins with a character and goes on in the rest of the text. -/
def scan (head : Char) (rest : List Char) : Element :=
  if isBlank head then ⟨[head], .blank⟩
  else if head = '/' ∧ rest.head? = some '/' then scanLineComment rest
  else if head = '/' ∧ rest.head? = some '*' then scanBlockComment rest.tail
  else if head = '"' then scanString rest
  else if head.isDigit then scanNumber (head :: rest)
  else if startsWord head then scanWord (head :: rest)
  else scanSign head rest

/-! ## The text of an element -/

theorem throughClosing_prefix {rest closed : List Char}
    (found : throughClosing rest = some closed) : closed <+: rest := by
  induction rest using throughClosing.induct generalizing closed with
  | case1 => simp [throughClosing] at found
  | case2 rest =>
    simp only [throughClosing, Option.some.injEq] at found
    subst found
    exact ⟨rest, rfl⟩
  | case3 c rest notClosing ih =>
    rw [throughClosing] at found
    · obtain ⟨inner, innerFound, rfl⟩ := Option.map_eq_some_iff.mp found
      exact List.cons_prefix_cons.mpr ⟨rfl, ih innerFound⟩
    · exact notClosing

theorem scanLineComment_prefix (rest : List Char) :
    (scanLineComment rest).text <+: '/' :: rest :=
  List.cons_prefix_cons.mpr ⟨rfl, List.takeWhile_prefix _⟩

theorem scanBlockComment_prefix (rest : List Char) :
    (scanBlockComment rest).text <+: '/' :: '*' :: rest := by
  unfold scanBlockComment
  split
  · rename_i closed found
    exact List.cons_prefix_cons.mpr ⟨rfl, List.cons_prefix_cons.mpr
      ⟨rfl, throughClosing_prefix found⟩⟩
  · exact List.prefix_rfl

theorem scanString_prefix (rest : List Char) :
    (scanString rest).text <+: '"' :: rest := by
  have parts := List.takeWhile_append_dropWhile (p := continuesString) (l := rest)
  unfold scanString
  split
  · exact List.cons_prefix_cons.mpr ⟨rfl, List.takeWhile_prefix _⟩
  · rename_i behind split
    rw [split] at parts
    exact List.cons_prefix_cons.mpr ⟨rfl, behind, by simpa using parts⟩
  · rename_i c behind _ split
    rw [split] at parts
    exact List.cons_prefix_cons.mpr ⟨rfl, behind, by simpa using parts⟩

theorem fractionDigits_prefix {characters : List Char} (digits : fractionDigits characters ≠ []) :
    '.' :: fractionDigits characters <+: characters := by
  unfold fractionDigits at digits ⊢
  split
  · exact List.cons_prefix_cons.mpr ⟨rfl, List.takeWhile_prefix _⟩
  · simp at digits

theorem scanNumber_prefix (characters : List Char) :
    (scanNumber characters).text <+: characters := by
  have parts := List.takeWhile_append_dropWhile (p := Char.isDigit) (l := characters)
  unfold scanNumber
  split
  · exact List.takeWhile_prefix _
  · rename_i digit digits fraction
    have point : '.' :: digit :: digits <+: characters.dropWhile Char.isDigit := by
      rw [← fraction]
      exact fractionDigits_prefix (by rw [fraction]; exact List.cons_ne_nil _ _)
    obtain ⟨behind, same⟩ := point
    exact ⟨behind, by rw [List.append_assoc, same, parts]⟩

theorem scanSign_prefix (head : Char) (rest : List Char) :
    (scanSign head rest).text <+: head :: rest := by
  unfold scanSign
  split
  · exact List.cons_prefix_cons.mpr ⟨rfl, List.take_prefix _ _⟩
  · split <;> exact List.cons_prefix_cons.mpr ⟨rfl, List.nil_prefix⟩

/-- The text of an element is a beginning of the scanned text. -/
theorem scan_text_prefix (head : Char) (rest : List Char) :
    (scan head rest).text <+: head :: rest := by
  unfold scan
  split
  · exact List.cons_prefix_cons.mpr ⟨rfl, List.nil_prefix⟩
  · split
    · rename_i opened
      rw [opened.1]
      exact scanLineComment_prefix rest
    · split
      · rename_i opened
        obtain ⟨rfl, second⟩ := opened
        obtain ⟨behind, rfl⟩ : ∃ behind, rest = '*' :: behind := by
          cases rest with
          | nil => simp at second
          | cons c behind => exact ⟨behind, by simpa using second⟩
        exact scanBlockComment_prefix behind
      · split
        · rename_i quote
          subst quote
          exact scanString_prefix rest
        · split
          · exact scanNumber_prefix _
          · split
            · exact List.takeWhile_prefix _
            · exact scanSign_prefix head rest

/-- The text of an element is not empty. -/
theorem scan_text_ne_nil (head : Char) (rest : List Char) : (scan head rest).text ≠ [] := by
  unfold scan
  split
  · exact List.cons_ne_nil _ _
  · split
    · exact List.cons_ne_nil _ _
    · split
      · unfold scanBlockComment
        split <;> exact List.cons_ne_nil _ _
      · split
        · unfold scanString
          split <;> exact List.cons_ne_nil _ _
        · split
          · rename_i digit
            have whole : (head :: rest).takeWhile Char.isDigit =
                head :: rest.takeWhile Char.isDigit := by
              simp [digit]
            unfold scanNumber
            split
            · rw [whole]
              exact List.cons_ne_nil _ _
            · rw [whole]
              exact List.cons_ne_nil _ _
          · split
            · rename_i word
              have continues : continuesWord head = true := by
                simp only [startsWord, Bool.or_eq_true] at word
                simp only [continuesWord, Char.isAlphanum, Bool.or_eq_true]
                rcases word with letter | underscore
                · exact .inl (.inl letter)
                · exact .inr underscore
              simp [scanWord, continues]
            · unfold scanSign
              split
              · exact List.cons_ne_nil _ _
              · split <;> exact List.cons_ne_nil _ _

end NumericLanguage
