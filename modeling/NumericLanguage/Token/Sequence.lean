import NumericLanguage.Token.Element
import NumericLanguage.Diagnostic.Log

/-!
# The tokens of a program text

A text is cut into its elements from left to right. Its tokens are the elements that are tokens,
in order, followed by one token for the end of the input; its lexical diagnostics are the
malformed elements, in order. Every location follows from the characters in front of it.

The elements are a partition: put together again they are the text (`elements_text`).
-/

set_option autoImplicit false

namespace NumericLanguage

/-! ## Partition -/

/-- The elements of a text whose first characters, as many as `skipped` says, belong to an
element that was found before. -/
def elementsFrom : List Char → Nat → List Element
  | [], _ => []
  | _ :: rest, skipped + 1 => elementsFrom rest skipped
  | head :: rest, 0 =>
      scan head rest :: elementsFrom rest ((scan head rest).text.length - 1)

/-- The elements of a text, in order. -/
def elements (text : List Char) : List Element := elementsFrom text 0

theorem elementsFrom_drop (text : List Char) (skipped : Nat) :
    elementsFrom text skipped = elements (text.drop skipped) := by
  induction text generalizing skipped with
  | nil => simp [elements, elementsFrom]
  | cons head rest ih =>
    cases skipped with
    | zero => rfl
    | succ skipped => rw [elementsFrom, ih, List.drop_succ_cons]

@[simp] theorem elements_nil : elements [] = [] := rfl

/-- The first element is what scanning finds, the others are those of the text behind it. -/
theorem elements_cons (head : Char) (rest : List Char) :
    elements (head :: rest) =
      scan head rest :: elements ((head :: rest).drop (scan head rest).text.length) := by
  obtain ⟨length, same⟩ : ∃ length, (scan head rest).text.length = length + 1 :=
    ⟨_, (Nat.succ_pred_eq_of_pos (List.length_pos_iff.mpr (scan_text_ne_nil head rest))).symm⟩
  rw [same, List.drop_succ_cons, ← elementsFrom_drop]
  show scan head rest :: elementsFrom rest ((scan head rest).text.length - 1) = _
  rw [same, Nat.add_sub_cancel]

/-- The texts of the elements, put together, are the text that was cut. -/
theorem elements_text (text : List Char) : (elements text).flatMap Element.text = text := by
  induction length : text.length using Nat.strongRecOn generalizing text with
  | ind size ih =>
    cases text with
    | nil => rfl
    | cons head rest =>
      have positive := List.length_pos_iff.mpr (scan_text_ne_nil head rest)
      have shorter : ((head :: rest).drop (scan head rest).text.length).length < size := by
        rw [← length, List.length_drop]
        exact Nat.sub_lt (Nat.succ_pos _) positive
      rw [elements_cons, List.flatMap_cons, ih _ shorter _ rfl]
      obtain ⟨behind, same⟩ := scan_text_prefix head rest
      have dropped := congrArg (List.drop (scan head rest).text.length) same
      rw [List.drop_left] at dropped
      rw [← dropped, same]

/-! ## Places -/

/-- The elements with the positions at which they begin, the first one given. -/
def placed : Position → List Element → List (Position × Element)
  | _, [] => []
  | position, element :: others =>
      (position, element) :: placed (position.after element.text) others

/-- The token that an element is, if it is one. -/
def Element.token? (file : String) (position : Position) (element : Element) : Option Token :=
  match element.form with
  | .token kind value =>
      some ⟨kind, String.ofList element.text, value, position.within file⟩
  | _ => none

/-- The diagnostic of an element, if it is malformed. -/
def Element.diagnostic? (file : String) (position : Position) (element : Element) :
    Option Diagnostic :=
  match element.form with
  | .malformed fault => some (fault.diagnostic (position.within file))
  | _ => none

/-! ## Tokens -/

/-- The tokens of a text and the diagnostics of its malformed elements. -/
structure Tokenization where
  tokens : List Token
  diagnostics : List Diagnostic
  deriving DecidableEq, Repr

/-- The token that ends every token list. -/
def endToken (location : Location) : Token := ⟨.endOfInput, "", none, location⟩

/-- The tokens and the diagnostics of a text with a given name. -/
def tokenize (file : String) (source : String) : Tokenization :=
  let text := source.toList
  let pieces := placed Position.start (elements text)
  { tokens :=
      pieces.filterMap (fun piece => piece.2.token? file piece.1) ++
        [endToken ((Position.start.after text).within file)]
    diagnostics := pieces.filterMap fun piece => piece.2.diagnostic? file piece.1 }

/-- The tokens of a text without malformed elements; otherwise the first error in it, stated as
one about malformed text. -/
def tokenizeStrictly (file : String) (source : String) : Except Diagnostic (List Token) :=
  let result := tokenize file source
  match DiagnosticLog.errors result.diagnostics with
  | [] => .ok result.tokens
  | first :: _ => .error (first.restatedAs .lexical)

end NumericLanguage
