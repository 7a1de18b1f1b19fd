import Mathlib.Data.List.TakeWhile
import NumericLanguage.Token.Cursor
import NumericLanguage.Proofs.Scanning.Lexeme

/-!
# Scanning takes the longest lexeme

A scan decides by the first character, or the first two, and then goes on as long as it can. What it
finds is what the lexical grammar asks for (`scans_scan`), and nothing else is (`Scans.eq`): the
longest lexeme is unique, and so is what it stands for.
-/

set_option autoImplicit false

namespace NumericLanguage

/-! ## Runs of characters -/

section Runs

variable {p : Char → Bool} {run rest input : List Char}

/-- A run of characters of a class ends where the next character is not of the class. -/
theorem takeWhile_append_stop (inside : ∀ c ∈ run, p c = true)
    (boundary : ∀ next ∈ rest.head?, p next = false) :
    (run ++ rest).takeWhile p = run := by
  rw [List.takeWhile_append_of_pos inside]
  cases rest with
  | nil => simp
  | cons next behind => simp [boundary next rfl]

theorem dropWhile_append_stop (inside : ∀ c ∈ run, p c = true)
    (boundary : ∀ next ∈ rest.head?, p next = false) :
    (run ++ rest).dropWhile p = rest := by
  rw [List.dropWhile_append_of_pos inside]
  cases rest with
  | nil => rfl
  | cons next behind => simp [boundary next rfl]

/-- A text begins with a run of characters of a class, up to the first that is not. -/
theorem exists_run (p : Char → Bool) (input : List Char) :
    ∃ run rest, run ++ rest = input ∧ (∀ c ∈ run, p c = true) ∧
      ∀ next ∈ rest.head?, p next = false := by
  refine ⟨input.takeWhile p, input.dropWhile p, List.takeWhile_append_dropWhile,
    fun c => List.mem_takeWhile_imp, fun next first => ?_⟩
  have stops := List.head?_dropWhile_not p input
  rw [Option.mem_def.mp first] at stops
  exact stops

/-- A run of characters of a class at the beginning of a text is not longer than the longest. -/
theorem length_le_takeWhile (inside : ∀ c ∈ run, p c = true) (begins : run ++ rest = input) :
    run.length ≤ (input.takeWhile p).length := by
  rw [← begins, List.takeWhile_append_of_pos inside, List.length_append]
  exact Nat.le_add_right _ _

end Runs

/-! ## Closing signs -/

theorem throughClosing_eq_none {text : List Char} (open_ : throughClosing text = none) :
    NeverCloses text := by
  induction text using throughClosing.induct with
  | case1 =>
      intro front behind same
      cases front <;> cases same
  | case2 behind => simp [throughClosing] at open_
  | case3 c rest notClosing ih =>
      rw [throughClosing] at open_
      · intro front behind same
        cases front with
        | nil =>
            obtain ⟨rfl, rfl⟩ := List.cons.inj same
            exact notClosing behind rfl rfl
        | cons first front =>
            obtain ⟨-, rest⟩ := List.cons.inj same
            exact ih (Option.map_eq_none_iff.mp open_) front behind rest
      · exact notClosing

theorem throughClosing_eq_some {text closed : List Char}
    (found : throughClosing text = some closed) :
    ∃ body behind, closed = body ++ ['*', '/'] ∧ text = closed ++ behind ∧ ClosesFirst body := by
  induction text using throughClosing.induct generalizing closed with
  | case1 => simp [throughClosing] at found
  | case2 behind =>
      simp only [throughClosing, Option.some.injEq] at found
      subst found
      exact ⟨[], behind, rfl, rfl, fun front _ _ => Nat.zero_le front.length⟩
  | case3 c rest notClosing ih =>
      rw [throughClosing] at found
      · obtain ⟨inner, innerFound, rfl⟩ := Option.map_eq_some_iff.mp found
        obtain ⟨body, behind, rfl, rfl, first⟩ := ih innerFound
        refine ⟨c :: body, behind, rfl, rfl, ?_⟩
        intro front more same
        cases front with
        | nil =>
            -- A closing sign at the very beginning would have been found there.
            simp only [List.cons_append, List.nil_append, List.cons.injEq] at same
            exact absurd (congrArg (· ++ behind) same.2) (notClosing (more ++ behind) same.1)
        | cons other front =>
            simp only [List.cons_append, List.cons.injEq] at same
            exact Nat.succ_le_succ (first front more same.2)
      · exact notClosing

/-- What closes first is not longer than what closes. -/
theorem ClosesFirst.length_le {body other rest behind : List Char} (first : ClosesFirst body)
    (same : body ++ '*' :: '/' :: rest = other ++ '*' :: '/' :: behind) :
    body.length ≤ other.length := by
  apply Nat.le_of_not_lt
  intro longer
  have inside : other ++ ['*', '/'] <+: body ++ ['*', '/'] := by
    have whole : other ++ ['*', '/'] <+: body ++ '*' :: '/' :: rest := ⟨behind, by simp [same]⟩
    refine List.prefix_of_prefix_length_le whole ⟨rest, by simp⟩ ?_
    simp only [List.length_append]
    omega
  obtain ⟨more, split⟩ := inside
  have bound := first other more (by simp [← split])
  omega

/-! ## Whole words -/

theorem wordForm_of_some {text : List Char} {word : Keyword}
    (spelled : Keyword.ofSpelling? text = some word) :
    wordForm text = .token (.keyword word) word.truth? := by
  rw [wordForm, spelled]
  cases word <;> rfl

theorem wordForm_of_none {text : List Char} (unreserved : Keyword.ofSpelling? text = none) :
    wordForm text = .token .identifier (some (.text (String.ofList text))) := by
  rw [wordForm, unreserved]

/-! ## A text is one lexeme only -/

/-- What a text is, given its form. -/
def LexicalForm.resultOf : LexicalForm → List Char → Form
  | blank, _ => .blank
  | lineComment, _ => .comment
  | blockComment, _ => .comment
  | string, text => .token .string (some (.text (String.ofList text.tail.dropLast)))
  | number, text => (scanNumber text).form
  | word, text => wordForm text
  | operator, text =>
      match Operator.ofSpelling? text with
      | some sign => .token (.operator sign) none
      | none => strayForm text.head!

namespace Lexeme

variable {form other : LexicalForm} {text rest behind input : List Char} {result found : Form}

theorem form_scanNumber_whole {digits : List Char} (inside : ∀ c ∈ digits, c.isDigit = true) :
    (scanNumber digits).form = integerForm digits := by
  have all := List.takeWhile_eq_self_iff.mpr inside
  have none := List.dropWhile_eq_nil_iff.mpr inside
  simp only [scanNumber, all, none, fractionDigits]

theorem form_scanNumber_real {whole fraction : List Char}
    (inside : ∀ c ∈ whole, c.isDigit = true) (some : fraction ≠ [])
    (more : ∀ c ∈ fraction, c.isDigit = true) :
    (scanNumber (whole ++ '.' :: fraction)).form = realForm whole fraction := by
  have point : ∀ next ∈ ('.' :: fraction).head?, next.isDigit = false := by simp
  have all := List.takeWhile_eq_self_iff.mpr more
  obtain ⟨first, others, rfl⟩ := List.exists_cons_of_ne_nil some
  simp only [scanNumber, takeWhile_append_stop inside point, dropWhile_append_stop inside point,
    fractionDigits, all]

/-- The form and the text decide on what a lexeme is. -/
theorem result_eq_resultOf (lexeme : Lexeme form text rest result) :
    result = form.resultOf text := by
  cases lexeme with
  | blank => rfl
  | lineComment => rfl
  | blockComment => rfl
  | string => simp [LexicalForm.resultOf]
  | integer _ inside small =>
      exact (if_pos small).symm.trans (form_scanNumber_whole inside).symm
  | largeInteger _ inside large =>
      exact (if_neg (Nat.not_le.mpr large)).symm.trans (form_scanNumber_whole inside).symm
  | real _ inside some more finite =>
      rw [LexicalForm.resultOf, form_scanNumber_real inside some more, realForm, finite,
        if_neg (by simp)]
  | largeReal _ inside some more infinite =>
      rw [LexicalForm.resultOf, form_scanNumber_real inside some more, realForm, infinite,
        if_pos rfl]
  | @keyword word _ => exact (wordForm_of_some (Keyword.ofSpelling?_eq_some_iff.mpr rfl)).symm
  | @identifier first others _ _ _ unreserved =>
      cases spelled : Keyword.ofSpelling? (first :: others) with
      | none => exact (wordForm_of_none spelled).symm
      | some word => exact absurd (Keyword.ofSpelling?_eq_some_iff.mp spelled) (unreserved word)
  | operator spelled => simp only [LexicalForm.resultOf, spelled]

/-- No operator begins with the opening sign of a comment. -/
theorem not_opening {c : Char} (opening : c = '/' ∨ c = '*') :
    ¬ Lexeme .operator ('/' :: c :: text) rest result := by
  have noSign : Operator.ofSpelling? ['/', '/'] = none ∧
      Operator.ofSpelling? ['/', '*'] = none := by decide
  intro lexeme
  cases lexeme with
  | operator spelled =>
      have length := Operator.length_of_spelling spelled
      simp only [List.length_cons] at length
      obtain rfl : text = [] := List.length_eq_zero_iff.mp (by omega)
      rcases opening with rfl | rfl
      · rw [noSign.1] at spelled
        cases spelled
      · rw [noSign.2] at spelled
        cases spelled

/-- Behind a slash, the next character decides on the form. -/
theorem form_of_slash {others : List Char} (lexeme : Lexeme form ('/' :: others) rest result) :
    form = if others.head? = some '/' then .lineComment
      else if others.head? = some '*' then .blockComment else .operator := by
  obtain ⟨_, _, same, member⟩ := lexeme.form_mem
  obtain ⟨rfl, rfl⟩ := List.cons.inj same
  rcases (by simpa [formsOf, isBlank] using member) with rfl | rfl | rfl
  · cases lexeme
    rfl
  · cases lexeme
    rfl
  · cases others with
    | nil => rfl
    | cons next others =>
        have notSlash : next ≠ '/' := by
          rintro rfl
          exact not_opening (.inl rfl) lexeme
        have notStar : next ≠ '*' := by
          rintro rfl
          exact not_opening (.inr rfl) lexeme
        simp [notSlash, notStar]

/-- A text has one form only. -/
theorem form_eq (lexeme : Lexeme form text rest result)
    (again : Lexeme other text behind found) : form = other := by
  obtain ⟨first, others, rfl, member⟩ := lexeme.form_mem
  obtain ⟨_, _, same, memberToo⟩ := again.form_mem
  obtain ⟨rfl, rfl⟩ := List.cons.inj same
  by_cases slash : first = '/'
  · subst slash
    rw [lexeme.form_of_slash, again.form_of_slash]
  · obtain ⟨single, only⟩ : ∃ single, formsOf first = [single] := by
      unfold formsOf
      split_ifs <;> exact ⟨_, rfl⟩
    rw [only, List.mem_singleton] at member memberToo
    rw [member, memberToo]

/-- **A text is one lexeme only.** -/
theorem result_eq (lexeme : Lexeme form text rest result)
    (again : Lexeme other text behind found) : result = found := by
  obtain rfl := lexeme.form_eq again
  rw [lexeme.result_eq_resultOf, again.result_eq_resultOf]

end Lexeme

/-! ## The longest lexeme -/

section Longest

variable {head : Char} {rest input text : List Char} {only : LexicalForm}

/-- A comment opens with a slash. -/
theorem not_opensComment (notSlash : head ≠ '/') : ¬ OpensComment (head :: rest) := by
  rintro ⟨behind, same, -⟩
  exact notSlash (List.cons.inj same).1

/-- An open comment begins with a sign that is an operator. -/
theorem OpensComment.not_noLexeme (opens : OpensComment input) : ¬ NoLexeme input := by
  intro noLexeme
  obtain ⟨behind, rfl, -⟩ := opens
  have divide : Operator.ofSpelling? ['/'] = some .divide := by decide
  exact noLexeme .operator ['/'] ('*' :: behind) _ (.operator divide) rfl

/-- Where the first character leaves one form open, only lexemes of that form compete. -/
theorem IsLongest.of_formsOf (single : formsOf head = [only])
    (bounded : ∀ longer behind result, Lexeme only longer behind result →
      longer ++ behind = head :: rest → longer.length ≤ text.length) :
    IsLongest text (head :: rest) := by
  intro form longer behind result lexeme begins
  have member := lexeme.form_mem_of_append begins
  rw [single, List.mem_singleton] at member
  subst member
  exact bounded longer behind result lexeme begins

theorem NoLexeme.of_formsOf (single : formsOf head = [only])
    (absent : ∀ text behind result, Lexeme only text behind result →
      text ++ behind ≠ head :: rest) :
    NoLexeme (head :: rest) := by
  intro form text behind result lexeme begins
  have member := lexeme.form_mem_of_append begins
  rw [single, List.mem_singleton] at member
  subst member
  exact absent text behind result lexeme begins

/-- The longest lexeme of a text is an element of it. -/
theorem Scans.of_lexeme (behind : List Char) {form : LexicalForm} {result : Form}
    (closed : ¬ OpensComment input) (lexeme : Lexeme form text behind result)
    (split : text ++ behind = input) (longest : IsLongest text input) :
    Scans input ⟨text, result⟩ := by
  subst split
  exact .lexeme closed lexeme longest

end Longest

/-! ## Blanks -/

theorem scans_blank {head : Char} (rest : List Char) (blank : isBlank head = true) :
    Scans (head :: rest) ⟨[head], .blank⟩ := by
  have notSlash : head ≠ '/' := by
    rintro rfl
    exact absurd blank (by decide)
  apply Scans.of_lexeme rest (not_opensComment notSlash) (.blank (isBlank_iff.mp blank)) rfl
  apply IsLongest.of_formsOf (formsOf_of_isBlank blank)
  intro longer behind result lexeme _
  cases lexeme
  exact Nat.le_refl _

/-! ## Comments -/

/-- A sign is not longer than the opening of a comment. -/
theorem Lexeme.length_operator_le {text rest : List Char} {result : Form}
    (lexeme : Lexeme .operator text rest result) : text.length ≤ 2 := by
  cases lexeme with
  | operator spelled =>
      have length := Operator.length_of_spelling spelled
      omega

theorem scans_lineComment (rest : List Char) :
    Scans ('/' :: '/' :: rest) (scanLineComment ('/' :: rest)) := by
  obtain ⟨body, behind, rfl, inside, stops⟩ := exists_run (fun c => c ≠ '\n') rest
  have whole : scanLineComment ('/' :: (body ++ behind)) = ⟨'/' :: '/' :: body, .comment⟩ := by
    rw [scanLineComment, List.takeWhile_cons_of_pos (by decide),
      takeWhile_append_stop inside stops]
  rw [whole]
  apply Scans.of_lexeme behind _ (.lineComment _ _) rfl
  · intro form longer more result lexeme begins
    have member := lexeme.form_mem_of_append begins
    rcases (by simpa [formsOf, isBlank] using member) with rfl | rfl | rfl
    · cases lexeme with
      | @lineComment other _ absent _ =>
          have within : ∀ c ∈ other, decide (c ≠ '\n') = true := fun c member =>
            decide_eq_true fun newline => absent (newline ▸ member)
          have split : other ++ more = body ++ behind := by simpa using begins
          have bound := length_le_takeWhile within split
          rw [takeWhile_append_stop inside stops] at bound
          simpa using bound
    · cases lexeme
      cases begins
    · exact lexeme.length_operator_le.trans (by simp)
  · rintro ⟨more, same, -⟩
    cases same
  · intro newline
    simpa using inside '\n' newline
  · intro next first
    simpa using stops next first

theorem scans_blockComment (rest : List Char) :
    Scans ('/' :: '*' :: rest) (scanBlockComment rest) := by
  unfold scanBlockComment
  cases closing : throughClosing rest with
  | none => exact .openComment ⟨rest, rfl, throughClosing_eq_none closing⟩
  | some closed =>
      obtain ⟨body, behind, rfl, rfl, first⟩ := throughClosing_eq_some closing
      apply Scans.of_lexeme behind _ (.blockComment first) rfl
      · intro form longer more result lexeme begins
        have member := lexeme.form_mem_of_append begins
        rcases (by simpa [formsOf, isBlank] using member) with rfl | rfl | rfl
        · cases lexeme
          cases begins
        · cases lexeme with
          | @blockComment other _ firstToo =>
              have split : other ++ '*' :: '/' :: more = body ++ '*' :: '/' :: behind := by
                simpa using begins
              simpa using firstToo.length_le split
        · exact lexeme.length_operator_le.trans (by simp)
      · rintro ⟨more, same, never⟩
        cases same
        exact never body behind (by simp)

/-! ## Strings -/

section Strings

variable {body : List Char}

theorem forall_continuesString :
    (∀ c ∈ body, continuesString c = true) ↔ ∀ c ∈ body, c ≠ '"' ∧ c ≠ '\n' :=
  forall₂_congr fun _ _ => continuesString_iff

/-- The body of a string is the run of characters in front of a quote or a newline. -/
theorem body_ends {sign : Char} (rest : List Char) (inside : ∀ c ∈ body, c ≠ '"' ∧ c ≠ '\n')
    (ends : sign = '"' ∨ sign = '\n') :
    (body ++ sign :: rest).takeWhile continuesString = body ∧
      (body ++ sign :: rest).dropWhile continuesString = sign :: rest := by
  have continues := forall_continuesString.mpr inside
  have stops : ∀ next ∈ (sign :: rest).head?, continuesString next = false := by
    rcases ends with rfl | rfl <;> simp [continuesString]
  exact ⟨takeWhile_append_stop continues stops, dropWhile_append_stop continues stops⟩

/-- Behind an opening quote stands a body, and then nothing, a quote or a newline. -/
theorem exists_body (rest : List Char) :
    ∃ body, (∀ c ∈ body, c ≠ '"' ∧ c ≠ '\n') ∧
      (body = rest ∨ ∃ behind, body ++ '"' :: behind = rest ∨ body ++ '\n' :: behind = rest) := by
  obtain ⟨body, behind, split, continues, stops⟩ := exists_run continuesString rest
  refine ⟨body, forall_continuesString.mp continues, ?_⟩
  cases behind with
  | nil => exact .inl (by rw [← split, List.append_nil])
  | cons sign behind =>
      have stop := stops sign rfl
      by_cases quote : sign = '"'
      · exact .inr ⟨behind, .inl (quote ▸ split)⟩
      · have newline : sign = '\n' := by simpa [continuesString, quote] using stop
        exact .inr ⟨behind, .inr (newline ▸ split)⟩

theorem scanString_closed (rest : List Char) (inside : ∀ c ∈ body, c ≠ '"' ∧ c ≠ '\n') :
    scanString (body ++ '"' :: rest) =
      ⟨'"' :: (body ++ ['"']), .token .string (some (.text (String.ofList body)))⟩ := by
  obtain ⟨run, behind⟩ := body_ends rest inside (.inl rfl)
  simp only [scanString, run, behind]

theorem scanString_line (rest : List Char) (inside : ∀ c ∈ body, c ≠ '"' ∧ c ≠ '\n') :
    scanString (body ++ '\n' :: rest) =
      ⟨'"' :: (body ++ ['\n']), .malformed (.unterminatedString true)⟩ := by
  obtain ⟨run, behind⟩ := body_ends rest inside (.inr rfl)
  simp only [scanString, run, behind]
  rfl

theorem scanString_text (inside : ∀ c ∈ body, c ≠ '"' ∧ c ≠ '\n') :
    scanString body = ⟨'"' :: body, .malformed (.unterminatedString false)⟩ := by
  have continues := forall_continuesString.mpr inside
  rw [scanString, List.dropWhile_eq_nil_iff.mpr continues,
    List.takeWhile_eq_self_iff.mpr continues]

end Strings

/-- A string ends at the first quote, and no newline stands in front of it. -/
theorem Lexeme.string_split {text behind rest : List Char} {result : Form}
    (lexeme : Lexeme .string text behind result) (begins : text ++ behind = '"' :: rest) :
    text = '"' :: (rest.takeWhile continuesString ++ ['"']) ∧
      rest.dropWhile continuesString = '"' :: behind := by
  cases lexeme with
  | @string body _ inside =>
      obtain rfl : body ++ '"' :: behind = rest := by simpa using begins
      obtain ⟨run, dropped⟩ := body_ends behind inside (.inl rfl)
      rw [run]
      exact ⟨rfl, dropped⟩

theorem scans_string (rest : List Char) : Scans ('"' :: rest) (scanString rest) := by
  have only : formsOf '"' = [.string] := by decide
  obtain ⟨body, inside, rfl | ⟨behind, rfl | rfl⟩⟩ := exists_body rest
  · rw [scanString_text inside]
    apply Scans.openText _ inside
    apply NoLexeme.of_formsOf only
    intro text behind result lexeme begins
    have split := (lexeme.string_split begins).2
    rw [List.dropWhile_eq_nil_iff.mpr (forall_continuesString.mpr inside)] at split
    cases split
  · rw [scanString_closed behind inside]
    apply Scans.of_lexeme behind (not_opensComment (by decide)) (.string inside) (by simp)
    apply IsLongest.of_formsOf only
    intro longer more result lexeme begins
    rw [(lexeme.string_split begins).1, (body_ends behind inside (.inl rfl)).1]
  · rw [scanString_line behind inside]
    apply Scans.openLine _ inside
    apply NoLexeme.of_formsOf only
    intro text more result lexeme begins
    have split := (lexeme.string_split begins).2
    rw [(body_ends behind inside (.inr rfl)).2] at split
    cases split

/-! ## Numbers -/

/-- A run of digits is a number, within its range or beyond it. -/
theorem Lexeme.of_digits {digits : List Char} (rest : List Char) (some : digits ≠ [])
    (inside : ∀ c ∈ digits, c.isDigit = true) :
    Lexeme .number digits rest (integerForm digits) := by
  unfold integerForm
  split
  · rename_i small
    exact .integer some inside small
  · rename_i large
    exact .largeInteger some inside (Nat.lt_of_not_le large)

/-- Digits in front of a point and behind it are a number, within its range or beyond it. -/
theorem Lexeme.of_fraction {whole fraction : List Char} (rest : List Char) (some : whole ≠ [])
    (inside : ∀ c ∈ whole, c.isDigit = true) (more : fraction ≠ [])
    (behind : ∀ c ∈ fraction, c.isDigit = true) :
    Lexeme .number (whole ++ '.' :: fraction) rest (realForm whole fraction) := by
  unfold realForm
  split
  · rename_i infinite
    exact .largeReal some inside more behind infinite
  · rename_i finite
    exact .real some inside more behind (Bool.eq_false_iff.mpr finite)

/-- No number at the beginning of a text is longer than the number that a scan finds. -/
theorem Lexeme.length_le_scanNumber {text behind input : List Char} {result : Form}
    (lexeme : Lexeme .number text behind result) (begins : text ++ behind = input) :
    text.length ≤ (scanNumber input).text.length := by
  obtain ⟨whole, -, digits, shape⟩ := lexeme.number_shape
  rcases shape with rfl | ⟨fraction, some, more, rfl⟩
  · have bound := length_le_takeWhile digits begins
    unfold scanNumber
    split
    · exact bound
    · simp only [List.length_append]
      omega
  · have point : ∀ next ∈ ('.' :: (fraction ++ behind)).head?, next.isDigit = false := by simp
    obtain rfl : whole ++ '.' :: (fraction ++ behind) = input := by simpa using begins
    have bound : fraction.length ≤ (fractionDigits ('.' :: (fraction ++ behind))).length :=
      length_le_takeWhile more rfl
    have positive := List.length_pos_iff.mpr some
    unfold scanNumber
    rw [takeWhile_append_stop digits point, dropWhile_append_stop digits point]
    split
    · rename_i none
      rw [none] at bound
      simp only [List.length_nil] at bound
      omega
    · rename_i found
      rw [found] at bound
      simpa using bound

theorem lexeme_scanNumber {head : Char} (rest : List Char) (digit : head.isDigit = true) :
    ∃ behind, Lexeme .number (scanNumber (head :: rest)).text behind
        (scanNumber (head :: rest)).form ∧
      (scanNumber (head :: rest)).text ++ behind = head :: rest := by
  obtain ⟨behind, split⟩ := scanNumber_prefix (head :: rest)
  refine ⟨behind, ?_, split⟩
  have some : (head :: rest).takeWhile Char.isDigit ≠ [] := by simp [digit]
  have inside : ∀ c ∈ (head :: rest).takeWhile Char.isDigit, c.isDigit = true :=
    fun c => List.mem_takeWhile_imp
  unfold scanNumber
  split
  · exact .of_digits behind some inside
  · rename_i first digits fraction
    have more : ∀ c ∈ first :: digits, c.isDigit = true := by
      rw [← fraction]
      unfold fractionDigits
      split
      · exact fun c => List.mem_takeWhile_imp
      · simp
    exact .of_fraction behind some inside (List.cons_ne_nil _ _) more

theorem scans_number {head : Char} (rest : List Char) (digit : head.isDigit = true) :
    Scans (head :: rest) (scanNumber (head :: rest)) := by
  have notSlash : head ≠ '/' :=
    ne_of_continuesWord (continuesWord_of_isDigit digit) (by decide)
  obtain ⟨behind, lexeme, split⟩ := lexeme_scanNumber rest digit
  apply Scans.of_lexeme behind (not_opensComment notSlash) lexeme split
  apply IsLongest.of_formsOf (formsOf_of_isDigit digit)
  intro longer more result other begins
  exact other.length_le_scanNumber begins

/-! ## Words -/

/-- A whole word is a keyword or an identifier. -/
theorem Lexeme.of_word {first : Char} {others : List Char} (rest : List Char)
    (starts : startsWord first = true) (continues : ∀ c ∈ others, continuesWord c = true) :
    Lexeme .word (first :: others) rest (wordForm (first :: others)) := by
  cases spelled : Keyword.ofSpelling? (first :: others) with
  | some word =>
      rw [wordForm_of_some spelled, ← Keyword.ofSpelling?_eq_some_iff.mp spelled]
      exact .keyword
  | none =>
      rw [wordForm_of_none spelled]
      apply Lexeme.identifier (startsWord_iff.mp starts)
      · exact fun c inside => continuesWord_iff.mp (continues c inside)
      · intro word spelling
        rw [Keyword.ofSpelling?_eq_some_iff.mpr spelling] at spelled
        cases spelled

theorem scans_word {head : Char} (rest : List Char) (starts : startsWord head = true) :
    Scans (head :: rest) (scanWord (head :: rest)) := by
  have notSlash : head ≠ '/' :=
    ne_of_continuesWord (continuesWord_of_startsWord starts) (by decide)
  obtain ⟨others, behind, rfl, continues, stops⟩ := exists_run continuesWord rest
  have run : (head :: (others ++ behind)).takeWhile continuesWord = head :: others := by
    rw [List.takeWhile_cons_of_pos (continuesWord_of_startsWord starts),
      takeWhile_append_stop continues stops]
  rw [scanWord, run]
  apply Scans.of_lexeme behind (not_opensComment notSlash) (.of_word behind starts continues) rfl
  apply IsLongest.of_formsOf (formsOf_of_startsWord starts)
  intro longer more result lexeme begins
  obtain ⟨first, inner, rfl, startsToo, inside⟩ := lexeme.word_shape
  have bound : (first :: inner).length ≤
      ((head :: (others ++ behind)).takeWhile continuesWord).length := by
    apply length_le_takeWhile _ begins
    intro c within
    rcases List.mem_cons.mp within with rfl | within
    · exact continuesWord_of_startsWord startsToo
    · exact inside c within
  rwa [run] at bound

/-! ## Signs -/

section Signs

variable {head : Char} {rest : List Char}

/-- Where nothing but a sign begins, the first two characters or the first one are its text. -/
theorem Lexeme.operator_split {text behind : List Char} {result : Form}
    (lexeme : Lexeme .operator text behind result) (begins : text ++ behind = head :: rest) :
    ∃ sign, Operator.ofSpelling? text = some sign ∧
      (text = [head] ∨ text = head :: rest.take 1) := by
  cases lexeme with
  | @operator _ _ sign spelled =>
      refine ⟨sign, spelled, ?_⟩
      match text, Operator.length_of_spelling spelled, begins with
      | [first], _, begins => exact .inl (by rw [(List.cons.inj begins).1])
      | [first, second], _, begins =>
          obtain ⟨rfl, tail⟩ := List.cons.inj begins
          exact .inr (by rw [← tail]; rfl)

theorem scans_sign (onlySigns : ∀ form text behind result, Lexeme form text behind result →
      text ++ behind = head :: rest → form = .operator)
    (closed : ¬ OpensComment (head :: rest)) (notQuote : head ≠ '"') :
    Scans (head :: rest) (scanSign head rest) := by
  unfold scanSign
  split
  · rename_i sign spelled
    have split : head :: rest.take 1 ++ rest.drop 1 = head :: rest := by
      rw [List.cons_append, List.take_append_drop]
    apply Scans.of_lexeme (rest.drop 1) closed (.operator spelled) split
    intro form longer behind result lexeme begins
    obtain rfl := onlySigns form longer behind result lexeme begins
    obtain ⟨_, -, rfl | rfl⟩ := lexeme.operator_split begins
    · simp
    · exact Nat.le_refl _
  · rename_i noPair
    split
    · rename_i sign spelled
      apply Scans.of_lexeme rest closed (.operator spelled) rfl
      intro form longer behind result lexeme begins
      obtain rfl := onlySigns form longer behind result lexeme begins
      obtain ⟨other, again, rfl | rfl⟩ := lexeme.operator_split begins
      · exact Nat.le_refl _
      · rw [noPair] at again
        cases again
    · rename_i noSingle
      have none : NoLexeme (head :: rest) := by
        intro form text behind result lexeme begins
        obtain rfl := onlySigns form text behind result lexeme begins
        obtain ⟨sign, again, rfl | rfl⟩ := lexeme.operator_split begins
        · rw [noSingle] at again
          cases again
        · rw [noPair] at again
          cases again
      unfold strayForm
      split
      · rename_i lone
        exact .loneSign none lone
      · rename_i other
        rw [not_or] at other
        exact .stray none notQuote other.1 other.2

end Signs

/-! ## What a scan finds -/

/-- A scan finds what the lexical grammar asks for. -/
theorem scans_scan (head : Char) (rest : List Char) : Scans (head :: rest) (scan head rest) := by
  rw [scan]
  by_cases blank : isBlank head = true
  · rw [if_pos blank]
    exact scans_blank rest blank
  rw [if_neg blank]
  by_cases line : head = '/' ∧ rest.head? = some '/'
  · rw [if_pos line]
    obtain ⟨rfl, second⟩ := line
    obtain ⟨behind, rfl⟩ := List.head?_eq_some_iff.mp second
    exact scans_lineComment behind
  rw [if_neg line]
  by_cases block : head = '/' ∧ rest.head? = some '*'
  · rw [if_pos block]
    obtain ⟨rfl, second⟩ := block
    obtain ⟨behind, rfl⟩ := List.head?_eq_some_iff.mp second
    exact scans_blockComment behind
  rw [if_neg block]
  by_cases quote : head = '"'
  · subst quote
    rw [if_pos rfl]
    exact scans_string rest
  rw [if_neg quote]
  by_cases digit : head.isDigit = true
  · rw [if_pos digit]
    exact scans_number rest digit
  rw [if_neg digit]
  by_cases starts : startsWord head = true
  · rw [if_pos starts]
    exact scans_word rest starts
  rw [if_neg starts]
  apply scans_sign _ _ quote
  · intro form text behind result lexeme begins
    have member := lexeme.form_mem_of_append begins
    by_cases slash : head = '/'
    · subst slash
      rcases (by simpa [formsOf, isBlank] using member) with rfl | rfl | rfl
      · cases lexeme
        exact absurd ⟨rfl, by rw [← (List.cons.inj begins).2]; rfl⟩ line
      · cases lexeme
        exact absurd ⟨rfl, by rw [← (List.cons.inj begins).2]; rfl⟩ block
      · rfl
    · simpa [formsOf, blank, slash, quote, digit, starts] using member
  · rintro ⟨behind, same, -⟩
    obtain ⟨rfl, rfl⟩ := List.cons.inj same
    exact block ⟨rfl, rfl⟩

/-! ## Only one element begins a text -/

/-- Scanning a text finds an open comment, the longest lexeme, or no lexeme at all. -/
theorem Scans.inversion {input : List Char} {element : Element} (scans : Scans input element) :
    (OpensComment input ∧ element = ⟨input, .malformed .unterminatedComment⟩) ∨
    (¬ OpensComment input ∧ IsLongest element.text input ∧
      ∃ form rest, Lexeme form element.text rest element.form ∧ element.text ++ rest = input) ∨
    (NoLexeme input ∧ ∃ head rest, input = head :: rest ∧
      element = if head = '"' then scanString rest else ⟨[head], strayForm head⟩) := by
  cases scans with
  | openComment opens => exact .inl ⟨opens, rfl⟩
  | lexeme closed lexeme longest => exact .inr (.inl ⟨closed, longest, _, _, lexeme, rfl⟩)
  | @openLine body rest none inside =>
      exact .inr (.inr ⟨none, '"', _, rfl, by rw [if_pos rfl, scanString_line rest inside]⟩)
  | @openText body none inside =>
      exact .inr (.inr ⟨none, '"', _, rfl, by rw [if_pos rfl, scanString_text inside]⟩)
  | @loneSign c rest none lone =>
      refine .inr (.inr ⟨none, c, rest, rfl, ?_⟩)
      have notQuote : c ≠ '"' := by rcases lone with rfl | rfl <;> decide
      rw [if_neg notQuote, strayForm, if_pos lone]
  | @stray c rest none notQuote notAnd notOr =>
      refine .inr (.inr ⟨none, c, rest, rfl, ?_⟩)
      rw [if_neg notQuote, strayForm, if_neg (not_or.mpr ⟨notAnd, notOr⟩)]

/-- **Only one element begins a text.** -/
theorem Scans.eq {input : List Char} {element other : Element} (scans : Scans input element)
    (again : Scans input other) : element = other := by
  rcases scans.inversion with ⟨opens, rfl⟩ | ⟨closed, longest, form, rest, lexeme, split⟩ |
      ⟨none, head, rest, rfl, rfl⟩
  · rcases again.inversion with ⟨-, rfl⟩ | ⟨closed, -⟩ | ⟨none, -⟩
    · rfl
    · exact absurd opens closed
    · exact absurd none opens.not_noLexeme
  · rcases again.inversion with ⟨opens, -⟩ | ⟨-, longestToo, formToo, behind, lexemeToo, split'⟩ |
        ⟨none, -⟩
    · exact absurd opens closed
    · obtain ⟨text, result⟩ := element
      obtain ⟨textToo, resultToo⟩ := other
      have length : text.length = textToo.length :=
        Nat.le_antisymm (longestToo form _ rest _ lexeme split)
          (longest formToo _ behind _ lexemeToo split')
      obtain rfl : text = textToo := (List.append_inj (split.trans split'.symm) length).1
      obtain rfl : result = resultToo := lexeme.result_eq lexemeToo
      rfl
    · exact absurd split (none form _ rest _ lexeme)
  · rcases again.inversion with ⟨opens, -⟩ | ⟨-, -, form, behind, lexeme, split⟩ |
        ⟨-, _, _, same, rfl⟩
    · exact absurd none opens.not_noLexeme
    · exact absurd split (none form _ behind _ lexeme)
    · obtain ⟨rfl, rfl⟩ := List.cons.inj same
      rfl

/-- What scanning finds is the only element that begins a text. -/
theorem scans_iff {head : Char} {rest : List Char} {element : Element} :
    Scans (head :: rest) element ↔ element = scan head rest := by
  constructor
  · exact fun scans => scans.eq (scans_scan head rest)
  · rintro rfl
    exact scans_scan head rest

/-! ## The elements of a whole text -/

theorem cuts_elements (text : List Char) : Cuts text (elements text) := by
  induction length : text.length using Nat.strongRecOn generalizing text with
  | ind size ih =>
    cases text with
    | nil => exact .nil
    | cons head rest =>
      have positive := List.length_pos_iff.mpr (scan_text_ne_nil head rest)
      obtain ⟨behind, split⟩ := scan_text_prefix head rest
      have shorter : behind.length < size := by
        rw [← length, ← split, List.length_append]
        omega
      have others := ih behind.length shorter behind rfl
      have found := scans_scan head rest
      rw [elements_cons, ← split, List.drop_left]
      rw [← split] at found
      exact .cons found others

/-- A text is cut in one way only. -/
theorem Cuts.eq_elements {text : List Char} {pieces : List Element} (cuts : Cuts text pieces) :
    pieces = elements text := by
  induction cuts with
  | nil => rfl
  | @cons rest element others scans _ ih =>
      cases whole : element.text ++ rest with
      | nil => exact absurd (List.append_eq_nil_iff.mp whole).1 scans.text_ne_nil
      | cons head tail =>
          rw [whole] at scans
          obtain rfl := scans_iff.mp scans
          rw [elements_cons, ← whole, List.drop_left, ih]

end NumericLanguage
