import NumericLanguage.Token.Sequence
import NumericLanguage.Proofs.Reading.Total

/-!
# Tokens and diagnostics of a text

Every token of a text comes from one scanned element. A keyword is scanned from its own spelling
and from nothing else, so that a token that stands for a type spells it
(`namesType_of_mem_tokenize`). What is recorded along the way is malformed text, and always an error
(`exists_fault_of_mem_tokenize`).
-/

set_option autoImplicit false

namespace NumericLanguage

/-! ## Spelled keywords -/

/-- An element that is a keyword only if it is written like it. -/
def Element.SpellsKeyword (element : Element) : Prop :=
  ∀ word value, element.form = .token (.keyword word) value → element.text = word.spelling

namespace Element.SpellsKeyword

/-- What is no token is no keyword. -/
theorem of_form {element : Element}
    (other : ∀ kind value, element.form ≠ .token kind value) : element.SpellsKeyword :=
  fun _ _ keyword => absurd keyword (other _ _)

/-- A token of another kind is no keyword. -/
theorem of_kind {element : Element} {kind : TokenKind} {literal : Option Literal}
    (form : element.form = .token kind literal) (other : ∀ word, kind ≠ .keyword word) :
    element.SpellsKeyword := by
  intro word value keyword
  rw [form] at keyword
  injection keyword with same
  exact absurd same (other word)

end Element.SpellsKeyword

open Element (SpellsKeyword)

/-- A word that is the spelling of a keyword is that keyword. -/
theorem exists_wordForm_eq {text : List Char} {word : Keyword}
    (spelled : Keyword.ofSpelling? text = some word) :
    ∃ value, wordForm text = .token (.keyword word) value := by
  rw [wordForm, spelled]
  cases word <;> exact ⟨_, rfl⟩

theorem spellsKeyword_scanWord (characters : List Char) : (scanWord characters).SpellsKeyword := by
  intro word value form
  change wordForm (scanWord characters).text = _ at form
  cases spelled : Keyword.ofSpelling? (scanWord characters).text with
  | none =>
      rw [wordForm, spelled] at form
      cases form
  | some found =>
      obtain ⟨literal, same⟩ := exists_wordForm_eq spelled
      rw [same] at form
      cases form
      exact (Keyword.ofSpelling?_eq_some_iff.mp spelled).symm

theorem spellsKeyword_scanBlockComment (rest : List Char) :
    (scanBlockComment rest).SpellsKeyword := by
  unfold scanBlockComment
  split
  · exact .of_form (fun _ _ => nofun)
  · exact .of_form (fun _ _ => nofun)

theorem spellsKeyword_scanString (rest : List Char) : (scanString rest).SpellsKeyword := by
  unfold scanString
  split
  · exact .of_form (fun _ _ => nofun)
  · exact .of_kind rfl (fun _ => nofun)
  · exact .of_form (fun _ _ => nofun)

theorem spellsKeyword_scanNumber (characters : List Char) :
    (scanNumber characters).SpellsKeyword := by
  unfold scanNumber
  split
  · unfold integerForm
    split
    · exact .of_kind rfl (fun _ => nofun)
    · exact .of_form (fun _ _ => nofun)
  · unfold realForm
    split
    · exact .of_form (fun _ _ => nofun)
    · exact .of_kind rfl (fun _ => nofun)

theorem spellsKeyword_scanSign (head : Char) (rest : List Char) :
    (scanSign head rest).SpellsKeyword := by
  unfold scanSign
  split
  · exact .of_kind rfl (fun _ => nofun)
  · split
    · exact .of_kind rfl (fun _ => nofun)
    · unfold strayForm
      split
      · exact .of_form (fun _ _ => nofun)
      · exact .of_form (fun _ _ => nofun)

/-- A keyword is scanned from its spelling only. -/
theorem spellsKeyword_scan (head : Char) (rest : List Char) :
    (scan head rest).SpellsKeyword := by
  -- The cases are the classes of the first character, in the order in which they are tried.
  unfold scan
  split
  · exact .of_form (fun _ _ => nofun)
  split
  · exact .of_form (fun _ _ => nofun)
  split
  · exact spellsKeyword_scanBlockComment rest.tail
  split
  · exact spellsKeyword_scanString rest
  split
  · exact spellsKeyword_scanNumber (head :: rest)
  split
  · exact spellsKeyword_scanWord (head :: rest)
  · exact spellsKeyword_scanSign head rest

/-! ## Elements -/

/-- Every element of a text was scanned. -/
theorem exists_scan_of_mem_elements {text : List Char} {element : Element}
    (inside : element ∈ elements text) : ∃ head rest, element = scan head rest := by
  induction size : text.length using Nat.strongRecOn generalizing text with
  | ind bound ih =>
      cases text with
      | nil => cases inside
      | cons head rest =>
          rw [elements_cons] at inside
          rcases List.mem_cons.mp inside with rfl | behind
          · exact ⟨head, rest, rfl⟩
          · have moved := List.length_pos_iff.mpr (scan_text_ne_nil head rest)
            have positive : 0 < bound := size ▸ Nat.succ_pos rest.length
            have fewer : ((head :: rest).drop (scan head rest).text.length).length < bound := by
              rw [List.length_drop, size]
              exact Nat.sub_lt positive moved
            exact ih _ fewer behind rfl

theorem mem_of_mem_placed {position : Position} {pieces : List Element}
    {piece : Position × Element} (inside : piece ∈ placed position pieces) :
    piece.2 ∈ pieces := by
  induction pieces generalizing position with
  | nil => cases inside
  | cons element others ih =>
      rcases List.mem_cons.mp inside with rfl | behind
      · exact List.mem_cons_self
      · exact List.mem_cons_of_mem element (ih behind)

/-! ## Tokens -/

section Tokenization

variable {file source : String}

/-- A token of a text is the one behind the end, or was scanned from its lexeme. -/
theorem exists_scan_of_mem_tokenize {token : Token}
    (inside : token ∈ (tokenize file source).tokens) :
    token.kind = .endOfInput ∨
      ∃ head rest, token.lexeme = String.ofList (scan head rest).text ∧
        (scan head rest).form = .token token.kind token.value := by
  rcases List.mem_append.mp inside with scanned | last
  · obtain ⟨⟨position, element⟩, piece, isToken⟩ := List.mem_filterMap.mp scanned
    obtain ⟨head, rest, rfl⟩ := exists_scan_of_mem_elements (mem_of_mem_placed piece)
    refine .inr ⟨head, rest, ?_⟩
    dsimp only at isToken
    unfold Element.token? at isToken
    split at isToken
    · rename_i kind value form
      cases isToken
      exact ⟨rfl, form⟩
    · cases isToken
  · rw [List.mem_singleton.mp last]
    exact .inl rfl

/-- **The tokens of a text spell the types they stand for.** -/
theorem namesType_of_mem_tokenize {token : Token}
    (inside : token ∈ (tokenize file source).tokens) : token.NamesType := by
  intro isType
  rcases exists_scan_of_mem_tokenize inside with isEnd | ⟨head, rest, lexeme, form⟩
  · rw [isEnd] at isType
    cases isType
  · have spells := spellsKeyword_scan head rest
    unfold TokenKind.isTypeName at isType
    split at isType
    · rename_i isLong
      rw [isLong] at form
      rw [lexeme, spells _ _ form]
      exact ⟨.long, rfl⟩
    · rename_i isDouble
      rw [isDouble] at form
      rw [lexeme, spells _ _ form]
      exact ⟨.double, rfl⟩
    · cases isType

/-! ## Diagnostics -/

/-- The diagnostics of a text are those of malformed text. -/
theorem exists_fault_of_mem_tokenize {diagnostic : Diagnostic}
    (inside : diagnostic ∈ (tokenize file source).diagnostics) :
    ∃ (fault : LexicalFault) (location : Location), diagnostic = fault.diagnostic location := by
  obtain ⟨⟨position, element⟩, -, recorded⟩ := List.mem_filterMap.mp inside
  dsimp only at recorded
  unfold Element.diagnostic? at recorded
  split at recorded
  · cases recorded
    exact ⟨_, _, rfl⟩
  · cases recorded

/-- All diagnostics of a text are about malformed text. -/
theorem ofCategory_lexical_tokenize :
    DiagnosticLog.ofCategory (tokenize file source).diagnostics .lexical =
      (tokenize file source).diagnostics := by
  refine List.filter_eq_self.mpr ?_
  intro diagnostic inside
  obtain ⟨fault, location, rfl⟩ := exists_fault_of_mem_tokenize inside
  rfl

end Tokenization

end NumericLanguage
