import Mathlib.Algebra.Group.Nat.Defs
import NumericLanguage.Source.Bounds
import NumericLanguage.Proofs.Outcome
import NumericLanguage.Proofs.Scanning.LongestMatch

/-!
# Scanning by index

A scanner may hold nothing but an index into the text, with its line and column, and read one
character at a time. Each way in which it could break off is a result here: an index may be out of
range, a pattern may fail to match where it is expected to, a conversion may refuse its argument,
and a loop may go on for more rounds than there are characters. Malformed text is thrown and
caught again around each element.

None of this ever shows: the scanner by index gives the tokens and the diagnostics of the text
(`Indexed.run_eq`).
-/

set_option autoImplicit false

namespace NumericLanguage.Indexed

/-! ## The scanner -/

/-- Why a step of the scanner ends without a result. -/
inductive Interruption
  | malformed (diagnostic : Diagnostic)
  | outOfRange (fault : OutOfRange)
  /-- A pattern does not match where it is expected to. -/
  | noMatch
  | severalCharacters (fault : SeveralCharacters)
  /-- There are more digits than a conversion accepts. -/
  | tooManyDigits
  /-- A loop goes on for too many rounds. -/
  | endless
  deriving DecidableEq, Repr

/-- A step that starts at a position of the text. -/
abbrev Step := EStateM Interruption Position

section Steps

variable (file : String) (text : List Char)

/-- The character at an index. -/
def characterAt (index : Nat) : Step Char :=
  match entryAt text index with
  | .ok c => pure c
  | .error _ => throw (.outOfRange .text)

/-- Whether there is a character left. -/
def inside : Step Bool := do
  return (← get).offset < text.length

/-- The next character, which must exist. -/
def here : Step Char := do
  characterAt text (← get).offset

/-- The character behind the next one, or U+0000. -/
def peek : Step Char := do
  let index := (← get).offset + 1
  if index < text.length then characterAt text index else return '\x00'

/-- Moves over the next character, if there is one. -/
def advance : Step Unit := do
  if ← inside text then
    let c ← here text
    modify fun position => position.next c

/-- Moves over a number of characters. -/
def advanceBy : Nat → Step Unit
  | 0 => return ()
  | count + 1 => do
      advance text
      advanceBy count

/-- The characters between a position and the current one. -/
def lexemeFrom (start : Position) : Step (List Char) := do
  return (text.take (← get).offset).drop start.offset

/-- Throws a fault of the element that begins at a position. -/
def malformed {α : Type} (start : Position) (fault : LexicalFault) : Step α :=
  throw (.malformed (fault.diagnostic (start.within file)))

/-- Skips a comment up to the end of its line. -/
def skipLineComment : Nat → Step Unit
  | 0 => throw .endless
  | rounds + 1 => do
      if ← inside text then
        if (← here text) ≠ '\n' then
          advance text
          skipLineComment rounds

/-- Skips a comment through its closing sign, once the opening sign is skipped. -/
def skipBlockComment (start : Position) : Nat → Step Unit
  | 0 => throw .endless
  | rounds + 1 => do
      if ← inside text then
        if (← here text) = '*' ∧ (← peek text) = '/' then
          advanceBy text 2
        else
          advance text
          skipBlockComment start rounds
      else malformed file start .unterminatedComment

/-- The characters of a string up to its closing quote or the end of the text. -/
def stringBody (start : Position) : Nat → Step (List Char)
  | 0 => throw .endless
  | rounds + 1 => do
      if ← inside text then
        let c ← here text
        if c = '"' then return []
        advance text
        if c = '\n' then malformed file start (.unterminatedString true)
        return c :: (← stringBody start rounds)
      else return []

/-- A string. -/
def string (start : Position) (rounds : Nat) : Step (Option Token) := do
  advance text
  let body ← stringBody file text start rounds
  if ← inside text then
    advance text
    let lexeme ← lexemeFrom text start
    return some ⟨.string, String.ofList lexeme, some (.text (String.ofList body)),
      start.within file⟩
  else malformed file start (.unterminatedString false)

/-- What the pattern of numbers matches: digits, and the digits behind a point if there are any. -/
def matchNumber (input : List Char) : Option (List Char × List Char) :=
  if input.takeWhile Char.isDigit = [] then none
  else some (input.takeWhile Char.isDigit, fractionDigits (input.dropWhile Char.isDigit))

/-- What the pattern of words matches. -/
def matchWord : List Char → Option (List Char)
  | [] => none
  | first :: others =>
      if startsWord first then some (first :: others.takeWhile continuesWord) else none

/-- Digits without the zeros in front, but not without any digit. -/
def withoutZeros (digits : List Char) : List Char :=
  if digits.dropWhile (fun c => c = '0') = [] then ['0'] else digits.dropWhile fun c => c = '0'

/-- The greatest number of digits that a conversion accepts. -/
def conversionLimit : Nat := 4300

/-- The value of digits, of which there must not be too many. -/
def integerOf (digits : List Char) : Step Nat :=
  if conversionLimit < digits.length then throw .tooManyDigits
  else return Number.decimalValue digits

/-- The number of digits of the greatest integer. -/
def maxIntegerDigits : Nat := (toString maxInteger).length

/-- The token of digits without a fraction. The conversion is not asked for more digits than the
greatest integer has. -/
def integer (start : Position) (digits : List Char) : Step (Option Token) := do
  let fault := LexicalFault.invalidNumber (String.ofList digits) integerOutOfRange
  if maxIntegerDigits < (withoutZeros digits).length then malformed file start fault
  else
    let value ← integerOf (withoutZeros digits)
    if maxInteger < value then malformed file start fault
    else return some ⟨.integer, String.ofList digits, some (.integer value), start.within file⟩

/-- The token of digits with a fraction. -/
def real (start : Position) (whole fraction : List Char) : Step (Option Token) := do
  let lexeme := String.ofList (whole ++ '.' :: fraction)
  let value := realValue whole fraction
  if value.isInfinite then malformed file start (.invalidNumber lexeme realOutOfRange)
  else return some ⟨.real, lexeme, some (.real value), start.within file⟩

/-- A number. -/
def number (start : Position) : Step (Option Token) := do
  match matchNumber (text.drop start.offset) with
  | none => throw .noMatch
  | some (whole, []) =>
      advanceBy text whole.length
      integer file start whole
  | some (whole, fraction) =>
      advanceBy text (whole ++ '.' :: fraction).length
      real file start whole fraction

/-- A word. -/
def word (start : Position) : Step (Option Token) := do
  match matchWord (text.drop start.offset) with
  | none => throw .noMatch
  | some lexeme =>
      advanceBy text lexeme.length
      let spelled := String.ofList lexeme
      match Keyword.ofSpelling? lexeme with
      | some keyword => return some ⟨.keyword keyword, spelled, keyword.truth?, start.within file⟩
      | none => return some ⟨.identifier, spelled, some (.text spelled), start.within file⟩

/-- The operator with a number of characters, if there is one. -/
def operator? (start : Position) (length : Nat) : Option Operator :=
  if ((text.drop start.offset).take length).length = length then
    Operator.ofSpelling? ((text.drop start.offset).take length)
  else none

/-- Moves over an operator of some length. -/
def takeOperator (start : Position) (length : Nat) (sign : Operator) : Step (Option Token) := do
  advanceBy text length
  return some ⟨.operator sign, String.ofList ((text.drop start.offset).take length), none,
    start.within file⟩

/-- Moves over a character with which nothing begins. -/
def stray (start : Position) (c : Char) : Step (Option Token) := do
  advance text
  if c = '&' ∨ c = '|' then malformed file start (.incompleteOperator c.toString)
  else
    match LexicalFault.ofText c.toString with
    | .ok fault => malformed file start fault
    | .error fault => throw (.severalCharacters fault)

/-- An operator of two characters, or else of one, or else a stray character. -/
def sign (start : Position) (c : Char) : Step (Option Token) :=
  match operator? text start 2, operator? text start 1 with
  | some found, _ => takeOperator file text start 2 found
  | none, some found => takeOperator file text start 1 found
  | none, none => stray file text start c

/-- The next element: a token, or nothing for a blank or a comment. -/
def next (rounds : Nat) : Step (Option Token) := do
  let start ← get
  let c ← here text
  if isBlank c then
    advance text
    return none
  else if c = '/' ∧ (← peek text) = '/' then
    skipLineComment text rounds
    return none
  else if c = '/' ∧ (← peek text) = '*' then
    advanceBy text 2
    skipBlockComment file text start rounds
    return none
  else if c = '"' then string file text start rounds
  else if c.isDigit then number file text start
  else if startsWord c then word file text start
  else sign file text start c

/-- Turns malformed text into a diagnostic; nothing else is caught. -/
def attempt (rounds : Nat) : Step (Option Token × Option Diagnostic) :=
  tryCatch ((fun token? => (token?, none)) <$> next file text rounds) fun
    | .malformed diagnostic => return (none, some diagnostic)
    | interruption => throw interruption

/-- The tokens and the diagnostics from the current position on. -/
def scanAll : Nat → Step Tokenization
  | 0 => throw .endless
  | rounds + 1 => do
      if ← inside text then
        let found ← attempt file text (text.length + 1)
        let others ← scanAll rounds
        return ⟨found.1.toList ++ others.tokens, found.2.toList ++ others.diagnostics⟩
      else return ⟨[endToken ((← get).within file)], []⟩

end Steps

/-- The tokens and the diagnostics of a text with a given name, unless the scanner breaks off. -/
def run (file source : String) : Except Interruption Tokenization :=
  match scanAll file source.toList (source.toList.length + 1) Position.start with
  | .ok result _ => .ok result
  | .error interruption _ => .error interruption

/-! ## Where the index stands -/

/-- The text that stands behind a position. -/
structure Stands (text : List Char) (position : Position) (rest : List Char) : Prop where
  within : position.offset ≤ text.length
  behind : text.drop position.offset = rest

namespace Stands

variable {text rest run : List Char} {position : Position} {c : Char}

theorem start (text : List Char) : Stands text .start text := ⟨Nat.zero_le _, rfl⟩

/-- As many characters are left as there are behind the position. -/
theorem length_eq (stands : Stands text position rest) :
    position.offset + rest.length = text.length := by
  rw [← stands.behind, List.length_drop]
  have within := stands.within
  omega

theorem after (stands : Stands text position (run ++ rest)) :
    Stands text (position.after run) rest where
  within := by
    have length := stands.length_eq
    rw [List.length_append] at length
    rw [Position.offset_after]
    omega
  behind := by
    rw [Position.offset_after, ← List.drop_drop, stands.behind, List.drop_left]

theorem next (stands : Stands text position (c :: rest)) : Stands text (position.next c) rest := by
  have split : Stands text position ([c] ++ rest) := stands
  exact split.after

theorem offset_lt (stands : Stands text position (c :: rest)) :
    position.offset < text.length := by
  have length := stands.length_eq
  rw [List.length_cons] at length
  omega

theorem getElem?_eq (stands : Stands text position (c :: rest)) :
    text[position.offset]? = some c := by
  rw [← List.head?_drop, stands.behind, List.head?_cons]

end Stands

/-! ## Single steps -/

section Single

variable {text rest run : List Char} {position : Position} {c : Char}

theorem characterAt_of_getElem? {index : Nat} (found : text[index]? = some c) :
    characterAt text index position = .ok c position := by
  simp only [characterAt, entryAt_of_getElem? found]
  rfl

theorem inside_of_cons (stands : Stands text position (c :: rest)) :
    inside text position = .ok true position := by
  rw [inside, bind_of_ok (get_apply position), decide_eq_true stands.offset_lt, pure_apply]

theorem inside_of_nil (stands : Stands text position []) :
    inside text position = .ok false position := by
  have length := stands.length_eq
  rw [List.length_nil] at length
  rw [inside, bind_of_ok (get_apply position), decide_eq_false (by omega), pure_apply]

theorem here_eq (stands : Stands text position (c :: rest)) :
    here text position = .ok c position := by
  rw [here, bind_of_ok (get_apply position), characterAt_of_getElem? stands.getElem?_eq]

/-- Past the end a character is found that begins and continues nothing. -/
theorem peek_eq (stands : Stands text position (c :: rest)) :
    peek text position = .ok (rest.head?.getD '\x00') position := by
  rw [peek, bind_of_ok (get_apply position)]
  cases rest with
  | nil =>
      have length := stands.length_eq
      simp only [List.length_singleton] at length
      rw [if_neg (by omega), pure_apply]
      rfl
  | cons next others =>
      have further := stands.next.offset_lt
      have found := stands.next.getElem?_eq
      rw [Position.offset_next] at further found
      rw [if_pos further, characterAt_of_getElem? found]
      rfl

theorem advance_eq (stands : Stands text position (c :: rest)) :
    advance text position = .ok () (position.next c) := by
  rw [advance, bind_of_ok (inside_of_cons stands), if_pos rfl, bind_of_ok (here_eq stands)]
  rfl

theorem advanceBy_eq (stands : Stands text position (run ++ rest)) :
    advanceBy text run.length position = .ok () (position.after run) := by
  induction run generalizing position with
  | nil => rfl
  | cons first others ih =>
      rw [List.length_cons, advanceBy, bind_of_ok (advance_eq stands), ih stands.next]
      rfl

/-- The characters that were passed are those between the two positions. -/
theorem lexemeFrom_eq (stands : Stands text position (run ++ rest)) :
    lexemeFrom text position (position.after run) = .ok run (position.after run) := by
  rw [lexemeFrom, bind_of_ok (get_apply _), pure_apply, Position.offset_after, List.drop_take,
    Nat.add_sub_cancel_left, stands.behind, List.take_left]

end Single

/-! ## Loops -/

section Loops

variable {file : String} {text rest : List Char} {start position : Position} {rounds : Nat}

/-- More rounds than characters are enough for every loop. -/
theorem skipLineComment_eq (stands : Stands text position rest) (enough : rest.length < rounds) :
    skipLineComment text rounds position =
      .ok () (position.after (rest.takeWhile fun c => c ≠ '\n')) := by
  induction rounds generalizing position rest with
  | zero => exact absurd enough (Nat.not_lt_zero _)
  | succ rounds ih =>
      cases rest with
      | nil => rw [skipLineComment, bind_of_ok (inside_of_nil stands)]; rfl
      | cons c others =>
          rw [skipLineComment, bind_of_ok (inside_of_cons stands), if_pos rfl,
            bind_of_ok (here_eq stands)]
          by_cases newline : c = '\n'
          · rw [if_neg (by simpa using newline),
              List.takeWhile_cons_of_neg (by simpa using newline)]
            rfl
          · rw [if_pos newline, bind_of_ok (advance_eq stands),
              List.takeWhile_cons_of_pos (by simpa using newline)]
            exact ih stands.next (Nat.lt_of_succ_lt_succ enough)

/-- The character past the end is none of those that are looked for. -/
theorem headD_eq_iff {sign : Char} (visible : sign ≠ '\x00') :
    rest.head?.getD '\x00' = sign ↔ rest.head? = some sign := by
  cases rest with
  | nil => simpa using visible.symm
  | cons next others => simp

theorem throughClosing_cons {c : Char} (opened : ¬ (c = '*' ∧ rest.head? = some '/')) :
    throughClosing (c :: rest) = (throughClosing rest).map fun closed => c :: closed := by
  rw [throughClosing]
  rintro behind rfl rfl
  exact opened ⟨rfl, rfl⟩

/-- A comment is skipped through its closing sign, or through the whole text without one. -/
theorem skipBlockComment_eq (stands : Stands text position rest) (enough : rest.length < rounds) :
    skipBlockComment file text start rounds position =
      match throughClosing rest with
      | some closed => .ok () (position.after closed)
      | none => .error (.malformed (LexicalFault.unterminatedComment.diagnostic
          (start.within file))) (position.after rest) := by
  induction rounds generalizing position rest with
  | zero => exact absurd enough (Nat.not_lt_zero _)
  | succ rounds ih =>
      cases rest with
      | nil => rw [skipBlockComment, bind_of_ok (inside_of_nil stands)]; rfl
      | cons c others =>
          have ahead : others.head?.getD '\x00' = '/' ↔ others.head? = some '/' :=
            headD_eq_iff (by decide)
          rw [skipBlockComment, bind_of_ok (inside_of_cons stands), if_pos rfl,
            bind_of_ok (here_eq stands), bind_of_ok (peek_eq stands)]
          by_cases closing : c = '*' ∧ others.head? = some '/'
          · obtain ⟨rfl, second⟩ := closing
            obtain ⟨behind, rfl⟩ := List.head?_eq_some_iff.mp second
            have sign : Stands text position (['*', '/'] ++ behind) := stands
            rw [if_pos ⟨rfl, rfl⟩]
            exact advanceBy_eq sign
          · rw [if_neg fun found => closing ⟨found.1, ahead.mp found.2⟩,
              bind_of_ok (advance_eq stands), ih stands.next (Nat.lt_of_succ_lt_succ enough),
              throughClosing_cons closing]
            cases throughClosing others <;> rfl

/-- A character of a string is put in front of the others. -/
theorem stringBody_cons {c : Char} (stands : Stands text position (c :: rest))
    (continues : c ≠ '"' ∧ c ≠ '\n') :
    stringBody file text start (rounds + 1) position =
      (do return c :: (← stringBody file text start rounds) : Step (List Char))
        (position.next c) := by
  rw [stringBody, bind_of_ok (inside_of_cons stands), if_pos rfl, bind_of_ok (here_eq stands),
    if_neg continues.1, bind_of_ok (advance_eq stands), if_neg continues.2]

/-- The characters of a string are passed one after the other and put in front of what follows. -/
theorem stringBody_append {body : List Char} (stands : Stands text position (body ++ rest))
    (continues : ∀ c ∈ body, c ≠ '"' ∧ c ≠ '\n') :
    stringBody file text start (rounds + body.length) position =
      ((body ++ ·) <$> stringBody file text start rounds) (position.after body) := by
  induction body generalizing position with
  | nil =>
      rw [map_apply]
      cases run : stringBody file text start rounds position <;> simp [run, Position.after_nil]
  | cons c others ih =>
      have more : ∀ other ∈ others, other ≠ '"' ∧ other ≠ '\n' := fun other inside =>
        continues other (List.mem_cons_of_mem c inside)
      rw [List.length_cons, ← Nat.add_assoc,
        stringBody_cons stands (continues c List.mem_cons_self), bind_apply,
        ih stands.next more, map_apply, map_apply, Position.after_cons]
      cases stringBody file text start rounds ((position.next c).after others) <;> rfl

/-- The body of a string ends in front of a quote, or where the text does. -/
theorem stringBody_of_end {body : List Char} (stands : Stands text position (body ++ rest))
    (continues : ∀ c ∈ body, c ≠ '"' ∧ c ≠ '\n') (ends : ∀ next ∈ rest.head?, next = '"')
    (enough : (body ++ rest).length < rounds) :
    stringBody file text start rounds position = .ok body (position.after body) := by
  rw [List.length_append] at enough
  obtain ⟨left, rfl⟩ : ∃ left, rounds = left + 1 + body.length :=
    ⟨rounds - 1 - body.length, by omega⟩
  have stopped : stringBody file text start (left + 1) (position.after body) =
      .ok [] (position.after body) := by
    cases rest with
    | nil => rw [stringBody, bind_of_ok (inside_of_nil stands.after)]; rfl
    | cons c others =>
        obtain rfl := ends c rfl
        rw [stringBody, bind_of_ok (inside_of_cons stands.after), if_pos rfl,
          bind_of_ok (here_eq stands.after)]
        rfl
  rw [stringBody_append stands continues, map_apply, stopped]
  simp only [List.append_nil]

/-- A newline in a string is passed and reported. -/
theorem stringBody_of_line {body : List Char}
    (stands : Stands text position (body ++ '\n' :: rest))
    (continues : ∀ c ∈ body, c ≠ '"' ∧ c ≠ '\n')
    (enough : (body ++ '\n' :: rest).length < rounds) :
    stringBody file text start rounds position =
      .error (.malformed ((LexicalFault.unterminatedString true).diagnostic (start.within file)))
        (position.after (body ++ ['\n'])) := by
  rw [List.length_append] at enough
  obtain ⟨left, rfl⟩ : ∃ left, rounds = left + 1 + body.length :=
    ⟨rounds - 1 - body.length, by omega⟩
  have stopped : stringBody file text start (left + 1) (position.after body) =
      .error (.malformed ((LexicalFault.unterminatedString true).diagnostic (start.within file)))
        ((position.after body).next '\n') := by
    rw [stringBody, bind_of_ok (inside_of_cons stands.after), if_pos rfl,
      bind_of_ok (here_eq stands.after), if_neg (by decide),
      bind_of_ok (advance_eq stands.after)]
    rfl
  rw [stringBody_append stands continues, map_apply, stopped, Position.after_append]
  rfl

end Loops

/-! ## Elements -/

/-- How the scanner ends at an element that begins at a position. -/
def outcome (file : String) (position : Position) (element : Element) :
    EStateM.Result Interruption Position (Option Token) :=
  match element.diagnostic? file position with
  | some diagnostic => .error (.malformed diagnostic) (position.after element.text)
  | none => .ok (element.token? file position) (position.after element.text)

section Elements

variable {file : String} {text rest : List Char} {position : Position} {rounds : Nat}

theorem string_eq (stands : Stands text position ('"' :: rest)) (enough : rest.length < rounds) :
    string file text position rounds position = outcome file position (scanString rest) := by
  rw [string, bind_of_ok (advance_eq stands)]
  obtain ⟨body, inside, rfl | ⟨behind, rfl | rfl⟩⟩ := exists_body rest
  · have ended : Stands text (position.next '"') (body ++ []) := by simpa using stands.next
    rw [bind_of_ok (stringBody_of_end ended inside nofun (by simpa using enough)),
      bind_of_ok (inside_of_nil ended.after), scanString_text inside]
    rfl
  · have closing : Stands text ((position.next '"').after body) ('"' :: behind) :=
      stands.next.after
    have whole : Stands text position ('"' :: (body ++ ['"']) ++ behind) := by
      simpa using stands
    have moved : ((position.next '"').after body).next '"' =
        position.after ('"' :: (body ++ ['"'])) := by
      rw [Position.after_cons, Position.after_append]
      rfl
    rw [bind_of_ok (stringBody_of_end stands.next inside (by simp) enough),
      bind_of_ok (inside_of_cons closing), if_pos rfl, bind_of_ok (advance_eq closing),
      moved, bind_of_ok (lexemeFrom_eq whole), scanString_closed behind inside]
    rfl
  · rw [bind_of_error (stringBody_of_line stands.next inside enough),
      scanString_line behind inside]
    rfl

/-! ### Numbers -/

/-- Zeros in front add nothing to a value. -/
theorem decimalValue_withoutZeros (digits : List Char) :
    Number.decimalValue (withoutZeros digits) = Number.decimalValue digits := by
  have dropped : Number.decimalValue (digits.dropWhile fun c => c = '0') =
      Number.decimalValue digits := by
    induction digits with
    | nil => rfl
    | cons c others ih =>
        by_cases zero : c = '0'
        · subst zero
          rw [List.dropWhile_cons_of_pos (by decide), ih]
          rfl
        · rw [List.dropWhile_cons_of_neg (by simpa using zero)]
  unfold withoutZeros
  split
  · rename_i none
    rw [← dropped, none]
    rfl
  · exact dropped

/-- Each further digit makes a value at least ten times as large. -/
theorem mul_pow_le_foldl (digits : List Char) (value : Nat) :
    value * 10 ^ digits.length ≤
      digits.foldl (fun value c => value * 10 + Number.digitValue c) value := by
  induction digits generalizing value with
  | nil => simp
  | cons c others ih =>
      rw [List.foldl_cons, List.length_cons, Nat.pow_succ', ← Nat.mul_assoc]
      exact Nat.le_trans (Nat.mul_le_mul_right _ (Nat.le_add_right _ _)) (ih _)

/-- A digit that is not zero has a value that is not zero. -/
theorem digitValue_pos {c : Char} (digit : c.isDigit = true) (notZero : c ≠ '0') :
    0 < Number.digitValue c := by
  have lower : '0'.toNat ≤ c.toNat := by
    simp only [Char.isDigit, Bool.and_eq_true, decide_eq_true_eq] at digit
    exact digit.1
  have different : c.toNat ≠ '0'.toNat := fun same => notZero (Char.toNat_inj.mp same)
  unfold Number.digitValue
  omega

theorem maxIntegerDigits_eq : maxIntegerDigits = 19 := by decide

/-- More digits than the greatest integer has, the first of them not zero, exceed it. -/
theorem maxInteger_lt_of_length {digits : List Char} (inside : ∀ c ∈ digits, c.isDigit = true)
    (long : maxIntegerDigits < (withoutZeros digits).length) :
    maxInteger < Number.decimalValue digits := by
  rw [maxIntegerDigits_eq] at long
  rw [← decimalValue_withoutZeros]
  unfold withoutZeros at long ⊢
  split at long
  · exact absurd long (by decide)
  · rename_i some
    rw [if_neg some]
    obtain ⟨first, others, whole⟩ := List.exists_cons_of_ne_nil some
    have member : first ∈ digits.dropWhile fun c => c = '0' := by
      rw [whole]
      exact List.mem_cons_self
    have digit := inside first ((List.dropWhile_suffix _).subset member)
    have notZero : first ≠ '0' := by
      have stops := List.head?_dropWhile_not (fun c => decide (c = '0')) digits
      rw [whole] at stops
      simpa using stops
    rw [whole, List.length_cons] at long
    rw [whole]
    calc maxInteger < 10 ^ 19 := by decide
      _ ≤ 10 ^ others.length := Nat.pow_le_pow_right (by decide) (by omega)
      _ ≤ (0 * 10 + Number.digitValue first) * 10 ^ others.length := by
        have positive := digitValue_pos digit notZero
        exact Nat.le_mul_of_pos_left _ (by omega)
      _ ≤ Number.decimalValue (first :: others) := mul_pow_le_foldl others _

/-- So few digits are converted without refusal. -/
theorem integerOf_withoutZeros {digits : List Char}
    (short : ¬ maxIntegerDigits < (withoutZeros digits).length) :
    integerOf (withoutZeros digits) position = .ok (Number.decimalValue digits) position := by
  have accepted : (withoutZeros digits).length ≤ conversionLimit :=
    Nat.le_trans (Nat.not_lt.mp short) (by decide)
  rw [integerOf, if_neg (Nat.not_lt.mpr accepted), decimalValue_withoutZeros, pure_apply]

theorem integer_eq {digits : List Char} (inside : ∀ c ∈ digits, c.isDigit = true) :
    integer file position digits (position.after digits) =
      outcome file position ⟨digits, integerForm digits⟩ := by
  unfold integer integerForm
  by_cases long : maxIntegerDigits < (withoutZeros digits).length
  · rw [if_pos long, if_neg (Nat.not_le.mpr (maxInteger_lt_of_length inside long))]
    rfl
  · rw [if_neg long, bind_of_ok (integerOf_withoutZeros long)]
    by_cases small : Number.decimalValue digits ≤ maxInteger
    · rw [if_neg (Nat.not_lt.mpr small), if_pos small]
      rfl
    · rw [if_pos (Nat.lt_of_not_le small), if_neg small]
      rfl

theorem real_eq (whole fraction : List Char) :
    real file position whole fraction (position.after (whole ++ '.' :: fraction)) =
      outcome file position ⟨whole ++ '.' :: fraction, realForm whole fraction⟩ := by
  unfold real realForm
  cases infinite : (realValue whole fraction).isInfinite <;> rfl

theorem number_eq {head : Char} (stands : Stands text position (head :: rest))
    (digit : head.isDigit = true) :
    number file text position position = outcome file position (scanNumber (head :: rest)) := by
  have some : (head :: rest).takeWhile Char.isDigit ≠ [] := by simp [digit]
  have inside : ∀ c ∈ (head :: rest).takeWhile Char.isDigit, c.isDigit = true :=
    fun c => List.mem_takeWhile_imp
  obtain ⟨behind, split⟩ := scanNumber_prefix (head :: rest)
  have skipped := advanceBy_eq (split ▸ stands)
  rw [number, stands.behind, matchNumber, if_neg some]
  unfold scanNumber at skipped ⊢
  cases fraction : fractionDigits ((head :: rest).dropWhile Char.isDigit) with
  | nil =>
      rw [fraction] at skipped
      exact (bind_of_ok skipped).trans (integer_eq inside)
  | cons first digits =>
      rw [fraction] at skipped
      exact (bind_of_ok skipped).trans (real_eq _ _)

/-! ### Words and signs -/

theorem word_eq {head : Char} (stands : Stands text position (head :: rest))
    (starts : startsWord head = true) :
    word file text position position = outcome file position (scanWord (head :: rest)) := by
  obtain ⟨others, behind, rfl, continues, stops⟩ := exists_run continuesWord rest
  have run : (head :: (others ++ behind)).takeWhile continuesWord = head :: others := by
    rw [List.takeWhile_cons_of_pos (continuesWord_of_startsWord starts),
      takeWhile_append_stop continues stops]
  have whole : Stands text position (head :: others ++ behind) := stands
  rw [word, stands.behind, matchWord, if_pos starts, takeWhile_append_stop continues stops,
    scanWord, run]
  dsimp only
  rw [bind_of_ok (advanceBy_eq whole)]
  cases spelled : Keyword.ofSpelling? (head :: others) with
  | none => rw [wordForm_of_none spelled]; rfl
  | some keyword => rw [wordForm_of_some spelled]; rfl

/-- A single character can be named by its code point. -/
theorem ofText_toString (c : Char) :
    LexicalFault.ofText c.toString = .ok (.unexpected c.toString) := by
  rw [LexicalFault.ofText, if_pos (by simp)]

theorem stray_eq {head : Char} (stands : Stands text position (head :: rest)) :
    stray file text position head position =
      outcome file position ⟨[head], strayForm head⟩ := by
  rw [stray, bind_of_ok (advance_eq stands), ofText_toString, strayForm]
  by_cases lone : head = '&' ∨ head = '|'
  · rw [if_pos lone, if_pos lone]
    rfl
  · rw [if_neg lone, if_neg lone]
    rfl

theorem takeOperator_eq {characters : List Char} (found : Operator)
    (stands : Stands text position (characters ++ rest)) :
    takeOperator file text position characters.length found position =
      outcome file position ⟨characters, .token (.operator found) none⟩ := by
  rw [takeOperator, bind_of_ok (advanceBy_eq stands), stands.behind, List.take_left]
  rfl

theorem sign_eq {head : Char} (stands : Stands text position (head :: rest)) :
    sign file text position head position = outcome file position (scanSign head rest) := by
  have single : Stands text position ([head] ++ rest) := stands
  have one : operator? text position 1 = Operator.ofSpelling? [head] := by
    rw [operator?, stands.behind]
    rfl
  cases rest with
  | nil =>
      have two : operator? text position 2 = none := by
        rw [operator?, stands.behind]
        rfl
      rw [sign, one, two, scanSign, List.take_nil]
      cases spelled : Operator.ofSpelling? [head] with
      | none => exact stray_eq stands
      | some found => exact takeOperator_eq found single
  | cons next others =>
      have pair : Stands text position ([head, next] ++ others) := stands
      have two : operator? text position 2 = Operator.ofSpelling? [head, next] := by
        rw [operator?, stands.behind]
        rfl
      have ahead : head :: (next :: others).take 1 = [head, next] := rfl
      rw [sign, one, two, scanSign, ahead]
      cases spelled : Operator.ofSpelling? [head, next] with
      | some found => exact takeOperator_eq found pair
      | none =>
          cases spelled : Operator.ofSpelling? [head] with
          | none => exact stray_eq stands
          | some found => exact takeOperator_eq found single

/-! ### All elements -/

/-- The scanner ends at an element as the element asks for. -/
theorem next_eq {head : Char} (stands : Stands text position (head :: rest))
    (enough : (head :: rest).length < rounds) :
    next file text rounds position = outcome file position (scan head rest) := by
  have slash : rest.head?.getD '\x00' = '/' ↔ rest.head? = some '/' := headD_eq_iff (by decide)
  have star : rest.head?.getD '\x00' = '*' ↔ rest.head? = some '*' := headD_eq_iff (by decide)
  rw [next, bind_of_ok (get_apply position), bind_of_ok (here_eq stands), scan]
  by_cases blank : isBlank head = true
  · rw [if_pos blank, if_pos blank, bind_of_ok (advance_eq stands)]
    rfl
  rw [if_neg blank, if_neg blank, bind_of_ok (peek_eq stands)]
  by_cases line : head = '/' ∧ rest.head? = some '/'
  · obtain ⟨rfl, second⟩ := line
    obtain ⟨behind, rfl⟩ := List.head?_eq_some_iff.mp second
    rw [if_pos ⟨rfl, rfl⟩, if_pos ⟨rfl, rfl⟩,
      bind_of_ok (skipLineComment_eq stands enough), List.takeWhile_cons_of_pos (by decide)]
    rfl
  rw [if_neg line, if_neg fun found => line ⟨found.1, slash.mp found.2⟩,
    bind_of_ok (peek_eq stands)]
  by_cases block : head = '/' ∧ rest.head? = some '*'
  · obtain ⟨rfl, second⟩ := block
    obtain ⟨behind, rfl⟩ := List.head?_eq_some_iff.mp second
    have opening : Stands text position (['/', '*'] ++ behind) := stands
    have skipped : advanceBy text 2 position = .ok () (position.after ['/', '*']) :=
      advanceBy_eq opening
    have fewer : behind.length < rounds := by
      simp only [List.length_cons] at enough
      omega
    rw [if_pos ⟨rfl, rfl⟩, if_pos ⟨rfl, rfl⟩, bind_of_ok skipped, bind_apply,
      skipBlockComment_eq opening.after fewer, List.tail_cons, scanBlockComment]
    cases throughClosing behind <;> rfl
  rw [if_neg block, if_neg fun found => block ⟨found.1, star.mp found.2⟩]
  by_cases quote : head = '"'
  · subst quote
    rw [if_pos rfl, if_pos rfl]
    exact string_eq stands (Nat.lt_of_succ_lt enough)
  rw [if_neg quote, if_neg quote]
  by_cases digit : head.isDigit = true
  · rw [if_pos digit, if_pos digit]
    exact number_eq stands digit
  rw [if_neg digit, if_neg digit]
  by_cases starts : startsWord head = true
  · rw [if_pos starts, if_pos starts]
    exact word_eq stands starts
  rw [if_neg starts, if_neg starts]
  exact sign_eq stands

/-- Nothing but malformed text interrupts the scanner, and that is caught. -/
theorem attempt_eq {head : Char} (stands : Stands text position (head :: rest))
    (enough : (head :: rest).length < rounds) :
    attempt file text rounds position =
      .ok ((scan head rest).token? file position, (scan head rest).diagnostic? file position)
        (position.after (scan head rest).text) := by
  rw [attempt, tryCatch_apply, map_apply, next_eq stands enough, outcome]
  unfold Element.token? Element.diagnostic?
  cases (scan head rest).form <;> rfl

theorem filterMap_cons_eq {α β : Type} (find : α → Option β) (first : α) (others : List α) :
    (first :: others).filterMap find = (find first).toList ++ others.filterMap find := by
  rw [List.filterMap_cons]
  cases find first <;> rfl

theorem scanAll_eq (stands : Stands text position rest) (enough : rest.length < rounds) :
    scanAll file text rounds position =
      .ok
        { tokens :=
            (placed position (elements rest)).filterMap
                (fun piece => piece.2.token? file piece.1) ++
              [endToken ((position.after rest).within file)]
          diagnostics :=
            (placed position (elements rest)).filterMap fun piece =>
              piece.2.diagnostic? file piece.1 }
        (position.after rest) := by
  induction rounds generalizing position rest with
  | zero => exact absurd enough (Nat.not_lt_zero _)
  | succ rounds ih =>
      cases rest with
      | nil =>
          rw [scanAll, bind_of_ok (inside_of_nil stands)]
          rfl
      | cons head behind =>
          have bound : (head :: behind).length < text.length + 1 := by
            have length := stands.length_eq
            omega
          obtain ⟨others, split⟩ := scan_text_prefix head behind
          have positive := List.length_pos_iff.mpr (scan_text_ne_nil head behind)
          have fewer : others.length < rounds := by
            rw [← split, List.length_append] at enough
            omega
          have moved : Stands text (position.after (scan head behind).text) others :=
            (split ▸ stands : Stands text position ((scan head behind).text ++ others)).after
          rw [scanAll, bind_of_ok (inside_of_cons stands), if_pos rfl,
            bind_of_ok (attempt_eq stands bound), bind_of_ok (ih moved fewer), pure_apply,
            elements_cons, ← split, List.drop_left, placed, filterMap_cons_eq, filterMap_cons_eq,
            Position.after_append, List.append_assoc]

end Elements

/-- **The scanner by index never breaks off.** It finds the tokens and the diagnostics of the
text. -/
theorem run_eq (file source : String) : run file source = .ok (tokenize file source) := by
  rw [run, scanAll_eq (.start source.toList) (Nat.lt_succ_self _)]
  rfl

end NumericLanguage.Indexed
