import Mathlib.Data.Nat.Digits.Defs
import NumericLanguage.Proofs.Analysis.Order
import NumericLanguage.Proofs.Scanning.Indexed
import NumericLanguage.Proofs.Scanning.Lines

/-!
# Integer literals

A run of digits that is a whole element of a text stands for its value in positional notation. The
scanner accepts it if this value is at most `2 ^ 63 - 1`, whatever the number of its digits and of
its zeros in front. Otherwise it reports the run as a whole. In both cases it goes on right behind
the run (`integers_exact`).

The scanner by index does not compute the value of every run. It first drops the zeros in front and
counts the digits that are left. The count is never wrong: more digits than the greatest integer has
make a value that exceeds it, and the zeros do not change the value (`refused_iff`).
-/

set_option autoImplicit false

namespace NumericLanguage

/-! ## Values -/

/-- The value of a run of decimal digits in positional notation. -/
def positionalValue (digits : List Char) : Nat :=
  Nat.ofDigits 10 (digits.reverse.map Number.digitValue)

/-- Taking up one digit after the other gives the positional value. -/
theorem decimalValue_eq (digits : List Char) :
    Number.decimalValue digits = positionalValue digits := by
  rw [Number.decimalValue, positionalValue, List.foldl_eq_foldr_reverse]
  induction digits.reverse with
  | nil => rfl
  | cons c others ih =>
      rw [List.foldr_cons, ih, List.map_cons, Nat.ofDigits_cons]
      exact (Nat.add_comm _ _).trans (congrArg _ (Nat.mul_comm _ _))

/-- The scanner by index refuses digits if, without the zeros in front, there are more of them than
the greatest integer has, or if their value is greater than that. It is the same to compare the
value of all digits. -/
theorem Indexed.refused_iff {digits : List Char} (inside : ∀ c ∈ digits, c.isDigit = true) :
    maxIntegerDigits < (withoutZeros digits).length ∨
        maxInteger < Number.decimalValue (withoutZeros digits) ↔
      maxInteger < positionalValue digits := by
  rw [decimalValue_withoutZeros, ← decimalValue_eq]
  constructor
  · rintro (long | large)
    · exact maxInteger_lt_of_length inside long
    · exact large
  · exact .inr

/-! ## Elements -/

/-- The text of a number that holds nothing but digits has no point, and so no fraction. -/
theorem scanNumber_of_digits {characters : List Char}
    (inside : ∀ c ∈ (scanNumber characters).text, c.isDigit = true) :
    scanNumber characters =
      ⟨(scanNumber characters).text, integerForm (scanNumber characters).text⟩ := by
  unfold scanNumber at inside ⊢
  cases fraction : fractionDigits (characters.dropWhile Char.isDigit) with
  | nil => rfl
  | cons digit digits =>
      rw [fraction] at inside
      exact absurd (inside '.' (by simp)) (by decide)

/-- An element of digits is a number without a fraction. -/
theorem scan_of_digits {head : Char} {rest : List Char}
    (inside : ∀ c ∈ (scan head rest).text, c.isDigit = true) :
    scan head rest = ⟨(scan head rest).text, integerForm (scan head rest).text⟩ := by
  have first : head ∈ (scan head rest).text := by
    obtain ⟨behind, split⟩ := scan_text_prefix head rest
    obtain ⟨c, others, whole⟩ := List.exists_cons_of_ne_nil (scan_text_ne_nil head rest)
    rw [whole] at split ⊢
    rw [(List.cons.inj split).1]
    exact List.mem_cons_self
  have number := scans_iff.mp (scans_number rest (inside head first))
  rw [← number] at inside ⊢
  exact scanNumber_of_digits inside

section Form

variable {element : Element} (form : element.form = integerForm element.text) (file : String)
  (place : Position)

include form

/-- A run whose value is small enough is a token. -/
theorem token_of_le (small : positionalValue element.text ≤ 2 ^ 63 - 1) :
    element.token? file place =
        some ⟨.integer, String.ofList element.text,
          some (.integer (positionalValue element.text)), place.within file⟩ ∧
      element.diagnostic? file place = none := by
  have isToken : element.form =
      .token .integer (some (.integer (positionalValue element.text))) := by
    rw [form, integerForm, decimalValue_eq]
    exact if_pos small
  constructor
  · rw [Element.token?, isToken]
  · rw [Element.diagnostic?, isToken]

/-- Any other run is malformed. -/
theorem malformed_of_lt (large : 2 ^ 63 - 1 < positionalValue element.text) :
    element.token? file place = none ∧
      element.diagnostic? file place =
        some ((LexicalFault.invalidNumber (String.ofList element.text)
          integerOutOfRange).diagnostic (place.within file)) := by
  have isMalformed : element.form =
      .malformed (.invalidNumber (String.ofList element.text) integerOutOfRange) := by
    rw [form, integerForm, decimalValue_eq]
    exact if_neg (Nat.not_le.mpr large)
  constructor
  · rw [Element.token?, isMalformed]
  · rw [Element.diagnostic?, isMalformed]

end Form

/-- An element of a text begins behind the texts of the elements in front of it, and the other
elements are those of the text behind it. -/
theorem Cuts.exists_scan {text : List Char} {before behind : List Element} {element : Element}
    (cuts : Cuts text (before ++ element :: behind)) :
    ∃ rest, text = before.flatMap Element.text ++ (element.text ++ rest) ∧
      Scans (element.text ++ rest) element ∧ behind = elements rest := by
  induction before generalizing text with
  | nil =>
      cases cuts with
      | cons scans others => exact ⟨_, rfl, scans, others.eq_elements⟩
  | cons first before ih =>
      cases cuts with
      | cons _ others =>
          obtain ⟨rest, rfl, scans, isBehind⟩ := ih others
          exact ⟨rest, by rw [List.flatMap_cons, List.append_assoc], scans, isBehind⟩

theorem text_ne_nil_of_mem_elements {text : List Char} {element : Element}
    (inside : element ∈ elements text) : element.text ≠ [] := by
  obtain ⟨head, rest, rfl⟩ := exists_scan_of_mem_elements inside
  exact scan_text_ne_nil head rest

theorem offset_le_of_mem_placed {place : Position} {text : List Char}
    {piece : Position × Element} (inside : piece ∈ placed place (elements text)) :
    place.offset ≤ piece.1.offset :=
  ((placed_ascending place fun _ => text_ne_nil_of_mem_elements).2 piece inside).1

/-! ## Parts of a tokenization -/

/-- A location in a run of characters that begins at a place. -/
def Location.liesIn (place : Position) (run : List Char) (location : Location) : Bool :=
  place.offset ≤ location.offset ∧ location.offset < (place.after run).offset

/-- A location behind a run of characters that begins at a place. -/
def Location.liesBehind (place : Position) (run : List Char) (location : Location) : Bool :=
  (place.after run).offset ≤ location.offset

theorem Location.liesIn_within_iff {place position : Position} {run : List Char} {file : String} :
    Location.liesIn place run (position.within file) = true ↔
      place.offset ≤ position.offset ∧ position.offset < (place.after run).offset := by
  simp [liesIn, Position.within]

theorem Location.liesBehind_within_iff {place position : Position} {run : List Char}
    {file : String} :
    Location.liesBehind place run (position.within file) = true ↔
      (place.after run).offset ≤ position.offset := by
  simp [liesBehind, Position.within]

namespace Tokenization

/-- The tokens and the diagnostics at some locations. -/
def restrict (isThere : Location → Bool) (result : Tokenization) : Tokenization where
  tokens := result.tokens.filter fun token => isThere token.location
  diagnostics := result.diagnostics.filter fun diagnostic => isThere diagnostic.location

/-- The tokens and the diagnostics of elements at their places. -/
def ofPieces (file : String) (pieces : List (Position × Element)) : Tokenization where
  tokens := pieces.filterMap fun piece => piece.2.token? file piece.1
  diagnostics := pieces.filterMap fun piece => piece.2.diagnostic? file piece.1

instance : Append Tokenization :=
  ⟨fun front behind =>
    ⟨front.tokens ++ behind.tokens, front.diagnostics ++ behind.diagnostics⟩⟩

/-- The tokens and the diagnostics of a text that begins at a position. -/
def ofText (file : String) (position : Position) (text : List Char) : Tokenization :=
  ofPieces file (placed position (elements text)) ++
    ⟨[endToken ((position.after text).within file)], []⟩

variable {file : String} {isThere : Location → Bool} {pieces : List (Position × Element)}

theorem append_eq (front behind : Tokenization) :
    front ++ behind =
      ⟨front.tokens ++ behind.tokens, front.diagnostics ++ behind.diagnostics⟩ := rfl

theorem empty_append (result : Tokenization) : ⟨[], []⟩ ++ result = result := rfl

theorem append_empty (result : Tokenization) : result ++ ⟨[], []⟩ = result := by
  rw [append_eq, List.append_nil, List.append_nil]

theorem ofPieces_append (front behind : List (Position × Element)) :
    ofPieces file (front ++ behind) = ofPieces file front ++ ofPieces file behind := by
  simp only [ofPieces, List.filterMap_append, append_eq]

theorem ofPieces_singleton (place : Position) (element : Element) :
    ofPieces file [(place, element)] =
      ⟨(element.token? file place).toList, (element.diagnostic? file place).toList⟩ := by
  simp only [ofPieces, Indexed.filterMap_cons_eq, List.filterMap_nil, List.append_nil]

theorem restrict_append (front behind : Tokenization) :
    (front ++ behind).restrict isThere = front.restrict isThere ++ behind.restrict isThere := by
  simp only [restrict, append_eq, List.filter_append]

theorem restrict_ofPieces_self (all : ∀ piece ∈ pieces, isThere (piece.1.within file) = true) :
    (ofPieces file pieces).restrict isThere = ofPieces file pieces := by
  simp only [restrict, ofPieces, Tokenization.mk.injEq, List.filter_eq_self, List.mem_filterMap]
  constructor
  · rintro token ⟨piece, inside, isToken⟩
    rw [Element.location_of_token? isToken]
    exact all piece inside
  · rintro diagnostic ⟨piece, inside, malformed⟩
    rw [Element.location_of_diagnostic? malformed]
    exact all piece inside

theorem restrict_ofPieces_eq_empty
    (none : ∀ piece ∈ pieces, isThere (piece.1.within file) = false) :
    (ofPieces file pieces).restrict isThere = ⟨[], []⟩ := by
  simp only [restrict, ofPieces, Tokenization.mk.injEq, List.filter_eq_nil_iff,
    List.mem_filterMap, Bool.not_eq_true]
  constructor
  · rintro token ⟨piece, inside, isToken⟩
    rw [Element.location_of_token? isToken]
    exact none piece inside
  · rintro diagnostic ⟨piece, inside, malformed⟩
    rw [Element.location_of_diagnostic? malformed]
    exact none piece inside

section Text

variable {place : Position}

theorem restrict_ofText_self (text : List Char)
    (all : ∀ position : Position, place.offset ≤ position.offset →
      isThere (position.within file) = true) :
    (ofText file place text).restrict isThere = ofText file place text := by
  have ends : isThere ((place.after text).within file) = true :=
    all _ (by rw [Position.offset_after]; exact Nat.le_add_right _ _)
  rw [ofText, restrict_append, restrict_ofPieces_self fun piece inside =>
    all _ (offset_le_of_mem_placed inside)]
  simp [restrict, endToken, ends]

theorem restrict_ofText_eq_empty (text : List Char)
    (none : ∀ position : Position, place.offset ≤ position.offset →
      isThere (position.within file) = false) :
    (ofText file place text).restrict isThere = ⟨[], []⟩ := by
  have ends : isThere ((place.after text).within file) = false :=
    none _ (by rw [Position.offset_after]; exact Nat.le_add_right _ _)
  rw [ofText, restrict_append, restrict_ofPieces_eq_empty fun piece inside =>
    none _ (offset_le_of_mem_placed inside)]
  simp [restrict, endToken, ends, append_eq]

end Text

theorem tokenize_eq (file source : String) :
    tokenize file source = ofText file .start source.toList :=
  congrArg (Tokenization.mk _) (List.append_nil _).symm

end Tokenization

/-! ## Runs of digits in a text -/

/-- What the scanner makes of a run of digits that begins at a place of a text. -/
structure DecodesInteger (file source : String) (place : Position) (digits rest : List Char) :
    Prop where
  /-- The run stands there, with the rest of the text behind it. -/
  stands : Indexed.Stands source.toList place (digits ++ rest)
  /-- A value that is small enough makes one token, with this value and the whole run. -/
  accepted : positionalValue digits ≤ 2 ^ 63 - 1 →
    (tokenize file source).restrict (Location.liesIn place digits) =
      { tokens :=
          [{  kind := .integer
              lexeme := String.ofList digits
              value := some (.integer (positionalValue digits))
              location := place.within file }]
        diagnostics := [] }
  /-- Any other value makes no token, and one diagnostic that names the whole run. -/
  refused : 2 ^ 63 - 1 < positionalValue digits →
    (tokenize file source).restrict (Location.liesIn place digits) =
      { tokens := []
        diagnostics :=
          [{  message := "invalid numeric literal: '" ++ String.ofList digits ++ "'"
              location := place.within file
              severity := .error
              category := .lexical
              code := some "L003"
              help := some "Integer literals must not exceed 9223372036854775807" }] }
  /-- Scanning goes on right behind the run. -/
  continues : (tokenize file source).restrict (Location.liesBehind place digits) =
    .ofText file (place.after digits) rest
  /-- The scanner by index reads the run in one step, and stops behind it in any case. -/
  reads : ∀ rounds, source.toList.length < rounds →
    Indexed.next file source.toList rounds place =
      if positionalValue digits ≤ 2 ^ 63 - 1 then
        .ok (some ⟨.integer, String.ofList digits, some (.integer (positionalValue digits)),
          place.within file⟩) (place.after digits)
      else
        .error (.malformed ((LexicalFault.invalidNumber (String.ofList digits)
          integerOutOfRange).diagnostic (place.within file))) (place.after digits)
  /-- Counting the digits behind the zeros, and comparing only when there are few, decides the same
  as comparing the value of the run. -/
  shortcut :
    Indexed.maxIntegerDigits < (Indexed.withoutZeros digits).length ∨
        maxInteger < Number.decimalValue (Indexed.withoutZeros digits) ↔
      2 ^ 63 - 1 < positionalValue digits

section Runs

open Tokenization

variable {file source : String} {before : List Element} {element : Element} {rest : List Char}

/-- A tokenization falls into what is made of the text in front of an element, of the element, and
of the text behind it. -/
theorem tokenize_eq_append (met : elements source.toList = before ++ element :: elements rest)
    (whole : source.toList = before.flatMap Element.text ++ (element.text ++ rest)) :
    tokenize file source =
      ofPieces file (placed .start before) ++
        (ofPieces file [(Position.start.after (before.flatMap Element.text), element)] ++
        ofText file ((Position.start.after (before.flatMap Element.text)).after element.text)
          rest) := by
  rw [tokenize_eq, ofText, met, placed_append, placed, ← List.singleton_append, ofPieces_append,
    ofPieces_append, whole, Position.after_append, Position.after_append, ofText]
  simp only [append_eq, List.append_assoc]

theorem offset_lt_of_mem_placed {piece : Position × Element}
    (met : elements source.toList = before ++ element :: elements rest)
    (inside : piece ∈ placed .start before) :
    piece.1.offset < (Position.start.after (before.flatMap Element.text)).offset := by
  refine ((placed_ascending .start fun other member => ?_).2 piece inside).2
  have listed : other ∈ elements source.toList := by
    rw [met]
    exact List.mem_append_left _ member
  exact text_ne_nil_of_mem_elements listed

variable (file) in
/-- In the run of an element lies what is made of this element, and behind it what is made of the
text behind it. -/
theorem restrict_tokenize {place : Position}
    (met : elements source.toList = before ++ element :: elements rest)
    (whole : source.toList = before.flatMap Element.text ++ (element.text ++ rest))
    (isPlace : Position.start.after (before.flatMap Element.text) = place) :
    (tokenize file source).restrict (Location.liesIn place element.text) =
        ofPieces file [(place, element)] ∧
      (tokenize file source).restrict (Location.liesBehind place element.text) =
        ofText file (place.after element.text) rest := by
  have longer : place.offset < (place.after element.text).offset := by
    have listed : element ∈ elements source.toList := by
      rw [met]
      exact List.mem_append_right _ List.mem_cons_self
    have some := text_ne_nil_of_mem_elements listed
    rw [Position.offset_after]
    exact Nat.lt_add_of_pos_right (List.length_pos_iff.mpr some)
  have inFront : ∀ piece ∈ placed .start before, piece.1.offset < place.offset :=
    fun piece inside => isPlace ▸ offset_lt_of_mem_placed met inside
  have here : ∀ piece ∈ [(place, element)], piece.1 = place := by simp
  rw [tokenize_eq_append met whole, isPlace, restrict_append, restrict_append, restrict_append,
    restrict_append]
  constructor
  · rw [restrict_ofPieces_eq_empty, restrict_ofPieces_self, restrict_ofText_eq_empty]
    · rw [empty_append, append_empty]
    · intro position behind
      rw [← Bool.not_eq_true, Location.liesIn_within_iff]
      exact fun inside => absurd inside.2 (Nat.not_lt.mpr behind)
    · intro piece inside
      rw [here piece inside, Location.liesIn_within_iff]
      exact ⟨Nat.le_refl _, longer⟩
    · intro piece inside
      rw [← Bool.not_eq_true, Location.liesIn_within_iff]
      exact fun within => absurd within.1 (Nat.not_le.mpr (inFront piece inside))
  · rw [restrict_ofPieces_eq_empty, restrict_ofPieces_eq_empty, restrict_ofText_self]
    · rw [empty_append, empty_append]
    · exact fun position behind => Location.liesBehind_within_iff.mpr behind
    · intro piece inside
      rw [← Bool.not_eq_true, Location.liesBehind_within_iff, here piece inside]
      exact Nat.not_le.mpr longer
    · intro piece inside
      rw [← Bool.not_eq_true, Location.liesBehind_within_iff]
      exact Nat.not_le.mpr ((inFront piece inside).trans longer)

end Runs

theorem integerOutOfRange_eq :
    integerOutOfRange = "Integer literals must not exceed 9223372036854775807" := by decide

/-- **Integer literals are exact.** A run of digits that is a whole element of a text makes one
token with its value if that is at most `2 ^ 63 - 1`, and otherwise one diagnostic that names the
run. The elements behind it are those of the text behind the run. -/
theorem integers_exact {file source : String} {before behind : List Element} {element : Element}
    (met : elements source.toList = before ++ element :: behind)
    (digits : ∀ c ∈ element.text, c.isDigit = true) :
    ∃ rest, behind = elements rest ∧
      DecodesInteger file source (Position.start.after (before.flatMap Element.text)) element.text
        rest := by
  obtain ⟨rest, whole, scans, rfl⟩ := (met ▸ cuts_elements source.toList).exists_scan
  obtain ⟨head, others, split⟩ : ∃ head others, element.text ++ rest = head :: others :=
    List.exists_cons_of_ne_nil fun none => scans.text_ne_nil (List.append_eq_nil_iff.mp none).1
  have isScan : element = scan head others := scans_iff.mp (split ▸ scans)
  have form : element.form = integerForm element.text := by
    have isNumber := scan_of_digits (isScan ▸ digits)
    rw [← isScan] at isNumber
    exact congrArg Element.form isNumber
  have stands : Indexed.Stands source.toList
      (Position.start.after (before.flatMap Element.text)) (element.text ++ rest) := by
    rw [whole]
    exact (Indexed.Stands.start _).after
  obtain ⟨within, behind⟩ := restrict_tokenize file met whole rfl
  refine ⟨rest, rfl, stands, ?_, ?_, behind, ?_, ?_⟩
  · intro small
    obtain ⟨isToken, silent⟩ := token_of_le form file _ small
    rw [within, Tokenization.ofPieces_singleton, isToken, silent]
    rfl
  · intro large
    obtain ⟨noToken, isMalformed⟩ := malformed_of_lt form file _ large
    rw [within, Tokenization.ofPieces_singleton, noToken, isMalformed,
      LexicalFault.diagnostic, LexicalFault.help, integerOutOfRange_eq]
    rfl
  · intro rounds enough
    have fewer : (head :: others).length < rounds := by
      rw [← split]
      have length := stands.length_eq
      omega
    rw [Indexed.next_eq (split ▸ stands) fewer, ← isScan, Indexed.outcome]
    by_cases small : positionalValue element.text ≤ 2 ^ 63 - 1
    · obtain ⟨isToken, silent⟩ := token_of_le form file _ small
      rw [silent, isToken, if_pos small]
    · obtain ⟨-, isMalformed⟩ := malformed_of_lt form file _ (Nat.lt_of_not_le small)
      rw [isMalformed, if_neg small]
  · exact Indexed.refused_iff digits

/-- Zeros in front of the least value that is too large. -/
theorem integers_exact_leastRefused :
    ∃ rest, [⟨[';'], .token (.operator .semicolon) none⟩] = elements rest ∧
      DecodesInteger "limits" "-009223372036854775808;" (Position.start.after ['-'])
        "009223372036854775808".toList rest := by
  have met : elements "-009223372036854775808;".toList =
      [⟨['-'], .token (.operator .minus) none⟩] ++
        ⟨"009223372036854775808".toList, .malformed
          (.invalidNumber "009223372036854775808" integerOutOfRange)⟩ ::
        [⟨[';'], .token (.operator .semicolon) none⟩] := by decide
  have digits : "009223372036854775808".toList.all Char.isDigit = true := by decide
  exact integers_exact met (List.all_eq_true.mp digits)

end NumericLanguage
