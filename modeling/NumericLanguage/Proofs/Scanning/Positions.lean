import Mathlib.Data.List.Induction
import NumericLanguage.Proofs.Analysis.Order
import NumericLanguage.Proofs.Scanning.Indexed
import NumericLanguage.Proofs.Scanning.Lines

/-!
# Lines and columns

A scanner counts lines and columns as it moves. It moves in many ways: over single characters, over
what a pattern matches, through comments and strings of several lines, also through text that it
then rejects, and on request over any number of characters. Yet nothing is remembered of the way: in
whatever position it stops, the line is one more than the number of newlines in front, and the
column is one more than the number of characters behind the last of them (`Position.Fits`).

A scanner that is worked by hand takes its steps in any order. The scanner by index and a cursor
take the same ones, and stop in the same positions, after a fault as well as after a result: one
step keeps this (`Cursor.Stands.perform`), and so do many (`Cursor.Stands.foldl`).
-/

set_option autoImplicit false

namespace NumericLanguage

/-! ## Positions in a text -/

/-- A position in a text with the line and the column that its offset has there. -/
structure Position.Fits (text : List Char) (position : Position) : Prop where
  inside : position.offset ≤ text.length
  line : position.line = 1 + (text.take position.offset).count '\n'
  /-- The characters behind the last newline are those up to the first one on the way back. -/
  column : position.column =
    1 + ((text.take position.offset).reverse.takeWhile fun c => c ≠ '\n').length

/-- A location in a named text with the line and the column that its offset has there. -/
def Location.Fits (file : String) (text : List Char) (location : Location) : Prop :=
  ∃ position : Position, position.Fits text ∧ location = position.within file

namespace Position

/-- A newline ends the column, any other character adds to it. -/
theorem column_start_after (text : List Char) :
    (start.after text).column = 1 + (text.reverse.takeWhile fun c => c ≠ '\n').length := by
  induction text using List.reverseRecOn with
  | nil => rfl
  | append_singleton front c ih =>
      rw [after_append, after_cons, after_nil, next, List.reverse_append, List.reverse_singleton,
        List.singleton_append]
      by_cases newline : c = '\n'
      · rw [if_pos newline, List.takeWhile_cons_of_neg (by simpa using newline)]
        rfl
      · rw [if_neg newline, List.takeWhile_cons_of_pos (by simpa using newline),
          List.length_cons, ih]
        exact Nat.add_assoc 1 _ 1

/-- The position behind some characters of a text fits. -/
theorem Fits.after {text passed rest : List Char} (split : passed ++ rest = text) :
    (start.after passed).Fits text := by
  have offset : (start.after passed).offset = passed.length := by
    rw [offset_after]
    exact Nat.zero_add _
  have inFront : text.take (start.after passed).offset = passed := by
    rw [offset, ← split, List.take_left]
  refine ⟨?_, ?_, ?_⟩
  · rw [offset, ← split, List.length_append]
    exact Nat.le_add_right _ _
  · rw [inFront, line_after]
    rfl
  · rw [inFront]
    exact column_start_after passed

end Position

/-! ## Steps by hand -/

/-- A step of a scanner that is worked by hand. -/
inductive ScannerCall
  /-- Scans the whole text, from its beginning. -/
  | tokenize
  /-- Reads the next element. -/
  | next
  /-- Moves over a number of characters, none if it is negative. -/
  | advance (count : Int)
  /-- Looks at the character some way ahead, or behind. -/
  | peek (offset : Int)

namespace Indexed

variable (file : String) (text : List Char)

/-- The character some way ahead, or U+0000 past the end. In front of the text it is counted from
the end. -/
def peekBy (offset : Int) : Step Char := do
  let index := (← get).offset + offset
  if index < text.length then
    match entryAt text index with
    | .ok c => return c
    | .error _ => throw (.outOfRange .text)
  else return '\x00'

/-- Takes a step by hand. -/
def perform : ScannerCall → Step Unit
  | .tokenize => do
      set Position.start
      let _ ← scanAll file text (text.length + 1)
      return ()
  | .next => do
      let _ ← next file text (text.length + 1)
      return ()
  | .advance count => advanceBy text count.toNat
  | .peek offset => do
      let _ ← peekBy text offset
      return ()

/-- Where the scanner stops after a step, with a result or with a fault. -/
def behind (position : Position) (call : ScannerCall) : Position :=
  match perform file text call position with
  | .ok _ final => final
  | .error _ final => final

end Indexed

namespace Cursor

/-- The cursor after a step by hand. It stays where it is when there is no element left. -/
def perform (cursor : Cursor) : ScannerCall → Cursor
  | .tokenize => (ofText cursor.file (String.ofList cursor.text)).advance cursor.text.length
  | .next =>
      match cursor.next with
      | .ok (_, moved) => moved
      | .error _ => cursor
  | .advance count => cursor.advance count.toNat
  | .peek _ => cursor

/-- A cursor in a named text, at the position behind the characters that it has passed. -/
structure Stands (file : String) (text : List Char) (cursor : Cursor) : Prop where
  file : cursor.file = file
  text : cursor.text = text
  position : cursor.position = Position.start.after cursor.passed.reverse

namespace Stands

variable {file source : String} {text : List Char} {cursor : Cursor}

theorem ofText (file source : String) : Stands file source.toList (.ofText file source) :=
  ⟨rfl, rfl, rfl⟩

/-- The scanner by index stands where the cursor does. -/
theorem indexed (stands : Stands file text cursor) :
    Indexed.Stands text cursor.position cursor.rest := by
  rw [stands.position, ← stands.text]
  exact (Indexed.Stands.start _).after

theorem fits (stands : Stands file text cursor) : cursor.position.Fits text := by
  rw [stands.position]
  exact .after stands.text

theorem advance (stands : Stands file text cursor) (count : Nat) :
    Stands file text (cursor.advance count) where
  file := stands.file
  text := (cursor.advance_text count).trans stands.text
  position := by
    simp only [Cursor.advance, List.reverse_append, List.reverse_reverse,
      Position.after_append, stands.position]

end Stands

end Cursor

namespace Indexed

variable {file : String} {text rest : List Char} {position : Position}

/-- Moving over a number of characters stops at the end of the text. -/
theorem advanceBy_eq_take (stands : Stands text position rest) (count : Nat) :
    advanceBy text count position = .ok () (position.after (rest.take count)) := by
  induction count generalizing position rest with
  | zero => rfl
  | succ count ih =>
      cases rest with
      | nil =>
          have stays : advance text position = .ok () position := by
            rw [advance, bind_of_ok (inside_of_nil stands)]
            rfl
          rw [advanceBy, bind_of_ok stays, ih stands, List.take_nil, List.take_nil]
      | cons c others =>
          rw [advanceBy, bind_of_ok (advance_eq stands), ih stands.next, List.take_succ_cons]
          rfl

/-- At the end of the text there is no element to read. -/
theorem next_of_nil (stands : Stands text position []) (rounds : Nat) :
    next file text rounds position = .error (.outOfRange .text) position := by
  have atEnd : text[position.offset]? = none := by
    rw [← List.head?_drop, stands.behind, List.head?_nil]
  have missing : here text position = .error (.outOfRange .text) position := by
    have fromStart : ¬ ((position.offset : Int) < 0) := Int.not_lt.mpr (Int.natCast_nonneg _)
    have none : entryAt text (position.offset : Nat) = .error .list := by
      simp only [entryAt, if_neg fromStart, Int.toNat_natCast, atEnd]
    rw [here, bind_of_ok (get_apply position), characterAt, none]
    rfl
  rw [next, bind_of_ok (get_apply position), bind_of_error missing]

theorem behind_next_of_nil (stands : Stands text position []) (file : String) :
    behind file text position .next = position := by
  rw [behind, perform, bind_of_error (next_of_nil stands _)]

/-- Looking ahead moves nothing, also where it fails. -/
theorem behind_peek (file : String) (position : Position) (offset : Int) :
    behind file text position (.peek offset) = position := by
  rw [behind, perform, bind_apply, peekBy, bind_of_ok (get_apply position)]
  by_cases inside : position.offset + offset < text.length
  · rw [if_pos inside]
    cases entryAt text (position.offset + offset) <;> rfl
  · rw [if_neg inside]
    rfl

/-- Scanning the whole text stops at its end. -/
theorem behind_tokenize (file : String) (position : Position) :
    behind file text position .tokenize = Position.start.after text := by
  have scanned : scanAll file text (text.length + 1) Position.start = _ :=
    scanAll_eq (.start text) (Nat.lt_succ_self text.length)
  have set_apply : (set Position.start : Step PUnit) position = .ok ⟨⟩ Position.start := rfl
  rw [behind, perform, bind_of_ok set_apply, bind_of_ok scanned]
  rfl

/-- Reading an element stops behind it, also where it is malformed. -/
theorem behind_next {head : Char} (stands : Stands text position (head :: rest)) (file : String) :
    behind file text position .next = position.after (scan head rest).text := by
  have enough : (head :: rest).length < text.length + 1 := by
    have length := stands.length_eq
    omega
  rw [behind, perform, bind_apply, next_eq stands enough, outcome]
  cases (scan head rest).diagnostic? file position <;> rfl

end Indexed

/-- The scanner by index and the cursor stop in the same positions. -/
theorem Cursor.Stands.perform {file : String} {text : List Char} {cursor : Cursor}
    (stands : Stands file text cursor) (call : ScannerCall) :
    Stands file text (cursor.perform call) ∧
      (cursor.perform call).position = Indexed.behind file text cursor.position call := by
  cases call with
  | tokenize =>
      have begins : Stands file text (Cursor.ofText cursor.file (String.ofList cursor.text)) := by
        rw [stands.file, stands.text]
        simpa using Stands.ofText file (String.ofList text)
      refine ⟨begins.advance _, ?_⟩
      rw [Indexed.behind_tokenize]
      simp [Cursor.perform, Cursor.advance, Cursor.ofText, stands.text]
  | next =>
      have indexed := stands.indexed
      cases whole : cursor.rest with
      | nil =>
          rw [whole] at indexed
          have missing : cursor.next = .error .text := by rw [Cursor.next, whole]
          rw [Cursor.perform, missing]
          exact ⟨stands, (Indexed.behind_next_of_nil indexed file).symm⟩
      | cons head rest =>
          rw [whole] at indexed
          have reads : cursor.next =
              .ok (cursor.reading (scan head rest),
                cursor.advance (scan head rest).text.length) := by
            rw [Cursor.next, whole]
          obtain ⟨others, split⟩ := scan_text_prefix head rest
          rw [Cursor.perform, reads, Indexed.behind_next indexed file]
          refine ⟨stands.advance _, ?_⟩
          rw [Cursor.advance, whole, ← split, List.take_left]
  | advance count =>
      refine ⟨stands.advance count.toNat, ?_⟩
      rw [Indexed.behind, Indexed.perform, Indexed.advanceBy_eq_take stands.indexed]
      rfl
  | peek offset => exact ⟨stands, (Indexed.behind_peek file cursor.position offset).symm⟩

/-- They do so after any steps. -/
theorem Cursor.Stands.foldl {file : String} {text : List Char} {cursor : Cursor}
    (stands : Stands file text cursor) (calls : List ScannerCall) :
    Stands file text (calls.foldl Cursor.perform cursor) ∧
      (calls.foldl Cursor.perform cursor).position =
        calls.foldl (Indexed.behind file text) cursor.position := by
  induction calls generalizing cursor with
  | nil => exact ⟨stands, rfl⟩
  | cons call calls ih =>
      obtain ⟨standsBehind, same⟩ := stands.perform call
      rw [List.foldl_cons, List.foldl_cons, ← same]
      exact ih standsBehind

/-! ## What is read -/

/-- What is read at a position is located there. -/
theorem Cursor.location_of_reading {cursor moved : Cursor} {reading : Reading}
    (reads : cursor.next = .ok (reading, moved)) :
    (∀ token, reading = .token token → token.location = cursor.position.within cursor.file) ∧
      ∀ diagnostic, reading = .fault diagnostic →
        diagnostic.location = cursor.position.within cursor.file := by
  unfold Cursor.next at reads
  split at reads
  · cases reads
  · rename_i head rest _
    cases reads
    constructor
    · intro token isToken
      unfold Cursor.reading at isToken
      split at isToken
      · rename_i isElement
        cases isToken
        exact Element.location_of_token? isElement
      · cases isToken
      · cases isToken
    · intro diagnostic isFault
      unfold Cursor.reading at isFault
      split at isFault
      · cases isFault
      · rename_i isElement
        cases isFault
        exact Element.location_of_diagnostic? isElement
      · cases isFault

/-- Where a scanner stops in a named text, and what it reads from there on. -/
structure Cursor.Exact (file : String) (text : List Char) (cursor : Cursor) : Prop where
  inText : cursor.text = text
  passed : cursor.passed.length = cursor.position.offset
  fits : cursor.position.Fits text
  token : ∀ token moved, cursor.next = .ok (.token token, moved) →
    token.location.Fits file text
  fault : ∀ diagnostic moved, cursor.next = .ok (.fault diagnostic, moved) →
    diagnostic.location.Fits file text

theorem Cursor.Stands.exact {file : String} {text : List Char} {cursor : Cursor}
    (stands : Stands file text cursor) : Exact file text cursor where
  inText := stands.text
  passed := by
    rw [stands.position, Position.offset_after, List.length_reverse]
    exact (Nat.zero_add _).symm
  fits := stands.fits
  token := by
    intro token moved reads
    refine ⟨cursor.position, stands.fits, ?_⟩
    rw [← stands.file]
    exact (location_of_reading reads).1 token rfl
  fault := by
    intro diagnostic moved reads
    refine ⟨cursor.position, stands.fits, ?_⟩
    rw [← stands.file]
    exact (location_of_reading reads).2 diagnostic rfl

end NumericLanguage
