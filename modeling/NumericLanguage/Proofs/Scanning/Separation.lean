import NumericLanguage.Proofs.Scanning.Partition
import NumericLanguage.Proofs.Layout.Pairing

/-!
# Lexemes set apart by blanks

In front of a blank, and at the end of a text, a token is read back from its lexeme, whatever it is:
no longer lexeme begins there, and no comment opens (`Lexeme.scans`). So the lexemes of some tokens
with blanks between each two of them are a text of these tokens, and one in which nothing is
malformed (`SetApart.restores`). What stood between the tokens before does not matter.
-/

set_option autoImplicit false

namespace NumericLanguage

/-! ## Where a lexeme is interrupted -/

/-- A text that goes on with no lexeme but a blank: it is empty, or a blank comes first. -/
def Interrupts (rest : List Char) : Prop := ∀ next ∈ rest.head?, isBlank next = true

/-- Before an interruption, a lexeme without blanks has come to its end. -/
theorem Interrupts.length_le {text rest longer more : List Char} (interrupts : Interrupts rest)
    (noBlank : ∀ c ∈ longer, isBlank c = false) (begins : longer ++ more = text ++ rest) :
    longer.length ≤ text.length := by
  rcases List.append_eq_append_iff.mp begins with ⟨following, rfl, -⟩ | ⟨following, rfl, split⟩
  · rw [List.length_append]
    exact Nat.le_add_right _ _
  · cases following with
    | nil => rw [List.append_nil]
    | cons next following =>
        have blank := interrupts next (by rw [split]; rfl)
        rw [noBlank next (by simp)] at blank
        cases blank

namespace Lexeme

variable {form : LexicalForm} {text behind rest : List Char} {kind : TokenKind}
  {value : Option Literal}

/-- What a token is does not depend on the text behind it. -/
theorem inFrontOf (lexeme : Lexeme form text behind (.token kind value)) (rest : List Char) :
    Lexeme form text rest (.token kind value) := by
  cases lexeme with
  | string inside => exact .string inside
  | integer some digits bounded => exact .integer some digits bounded
  | real some digits someToo more finite => exact .real some digits someToo more finite
  | keyword => exact .keyword
  | identifier starts continues unreserved => exact .identifier starts continues unreserved
  | operator spelled => exact .operator spelled

/-- No comment opens at a token in front of an interruption. -/
theorem not_opens (lexeme : Lexeme form text behind (.token kind value))
    (interrupts : Interrupts rest) {sign : Char} (opening : sign = '/' ∨ sign = '*')
    (following : List Char) : text ++ rest ≠ '/' :: sign :: following := by
  intro begins
  obtain ⟨first, others, rfl, -⟩ := lexeme.form_mem
  obtain ⟨rfl, others_eq⟩ := List.cons.inj begins
  cases others with
  | nil =>
      -- The second sign would be the interruption.
      have begins : rest = sign :: following := others_eq
      have blank := interrupts sign (by rw [begins]; rfl)
      rcases opening with rfl | rfl <;> exact absurd blank (by decide)
  | cons second others =>
      obtain ⟨rfl, -⟩ := List.cons.inj others_eq
      have isForm := lexeme.form_of_slash
      rcases opening with rfl | rfl
      · obtain rfl : form = .lineComment := isForm
        cases lexeme
      · obtain rfl : form = .blockComment := isForm
        cases lexeme

/-- No lexeme is longer than a token in front of an interruption. -/
theorem isLongest (lexeme : Lexeme form text rest (.token kind value))
    (interrupts : Interrupts rest) : IsLongest text (text ++ rest) := by
  intro other longer more result found begins
  cases other with
  | blank =>
      cases found
      exact List.length_pos_iff.mpr lexeme.text_ne_nil
  | lineComment =>
      cases found
      exact absurd begins.symm (lexeme.not_opens interrupts (.inl rfl) _)
  | blockComment =>
      cases found
      exact absurd begins.symm (lexeme.not_opens interrupts (.inr rfl) _)
  | string =>
      -- Both are strings, and a string ends at the first quote.
      obtain ⟨tail, split⟩ : ∃ tail, longer ++ more = '"' :: tail := by
        cases found
        exact ⟨_, rfl⟩
      have only : formsOf '"' = [.string] := by decide
      have isString := lexeme.form_mem_of_append (begins.symm.trans split)
      rw [only, List.mem_singleton] at isString
      subst isString
      rw [(found.string_split split).1, (lexeme.string_split (begins.symm.trans split)).1]
  | number => exact interrupts.length_le (found.isBlank_of_plain (by decide)) begins
  | word => exact interrupts.length_le (found.isBlank_of_plain (by decide)) begins
  | operator => exact interrupts.length_le (found.isBlank_of_plain (by decide)) begins

/-- **In front of an interruption a token is scanned back from its lexeme.** -/
theorem scans (lexeme : Lexeme form text behind (.token kind value))
    (interrupts : Interrupts rest) : Scans (text ++ rest) ⟨text, .token kind value⟩ := by
  have here := lexeme.inFrontOf rest
  apply Scans.of_lexeme rest _ here rfl (here.isLongest interrupts)
  rintro ⟨following, begins, -⟩
  exact lexeme.not_opens interrupts (.inr rfl) following begins

end Lexeme

/-! ## Texts of tokens -/

/-- The lexemes of some tokens in their order, with blanks between each two of them. -/
inductive SetApart : List Token → List Char → Prop
  | nil : SetApart [] []
  | one (token : Token) : SetApart [token] token.lexeme.toList
  | cons {token next : Token} {others : List Token} {gap text : List Char} :
      gap ≠ [] → (∀ c ∈ gap, isBlank c = true) → SetApart (next :: others) text →
      SetApart (token :: next :: others) (token.lexeme.toList ++ (gap ++ text))

/-- Spelled out, tokens are set apart by single spaces. -/
theorem setApart_spelledOut (tokens : List Token) :
    SetApart tokens (Token.spelledOut tokens).toList := by
  induction tokens with
  | nil => exact .nil
  | cons token others ih =>
      cases others with
      | nil => exact .one token
      | cons next others =>
          have spelled : (Token.spelledOut (token :: next :: others)).toList =
              token.lexeme.toList ++ ([' '] ++ (Token.spelledOut (next :: others)).toList) := by
            simp [Token.spelledOut]
          have blank : ∀ c ∈ [' '], isBlank c = true := by
            intro c inside
            obtain rfl := List.mem_singleton.mp inside
            decide
          rw [spelled]
          exact .cons (List.cons_ne_nil _ _) blank ih

/-- A token that is read from its lexeme. -/
def Token.IsRead (token : Token) : Prop :=
  ∃ form rest, Lexeme form token.lexeme.toList rest (.token token.kind token.value)

/-- Every token of a text, except the one at its end, is read from its lexeme. -/
theorem isRead_of_mem_tokenize {file source : String} {token : Token}
    (inside : token ∈ (tokenize file source).tokens) (goesOn : token.kind ≠ .endOfInput) :
    token.IsRead := by
  have accounts := accounts_tokenize file source
  rw [accounts.tokens] at inside
  rcases List.mem_append.mp inside with inside | last
  · obtain ⟨piece, member, same⟩ := List.mem_filterMap.mp inside
    cases piece with
    | token found =>
        cases same
        obtain ⟨front, rest, split⟩ := List.append_of_mem member
        cases accounts.stands front _ rest split with
        | token lexeme _ => exact ⟨_, _, lexeme⟩
    | _ => cases same
  · rw [List.mem_singleton.mp last] at goesOn
    exact absurd rfl goesOn

/-- Elements that are some tokens in their order, and blanks. -/
inductive Renders : List Token → List Element → Prop
  | nil : Renders [] []
  | blank {tokens : List Token} {elements : List Element} (c : Char) :
      Renders tokens elements → Renders tokens (⟨[c], .blank⟩ :: elements)
  | token {tokens : List Token} {elements : List Element} (token : Token) :
      Renders tokens elements →
      Renders (token :: tokens)
        (⟨token.lexeme.toList, .token token.kind token.value⟩ :: elements)

namespace Renders

variable {tokens : List Token} {elements : List Element}

/-- Wherever such elements are placed, the tokens are found in them, and nothing is malformed. -/
theorem placed (renders : Renders tokens elements) (file : String) (position : Position) :
    List.Forall₂ Token.Alike tokens
        ((placed position elements).filterMap fun piece => piece.2.token? file piece.1) ∧
      (NumericLanguage.placed position elements).filterMap
        (fun piece => piece.2.diagnostic? file piece.1) = [] := by
  induction renders generalizing position with
  | nil => exact ⟨.nil, rfl⟩
  | blank c _ ih => exact ih (position.after [c])
  | token token _ ih =>
      obtain ⟨alike, clean⟩ := ih (position.after token.lexeme.toList)
      exact ⟨.cons ⟨rfl, String.ofList_toList.symm, rfl⟩ alike, clean⟩

end Renders

/-- Blanks in front of a text are elements of their own. -/
theorem Cuts.behind_gap {gap text : List Char} {tokens : List Token} {elements : List Element}
    (blank : ∀ c ∈ gap, isBlank c = true) (cuts : Cuts text elements)
    (renders : Renders tokens elements) :
    ∃ more, Cuts (gap ++ text) more ∧ Renders tokens more := by
  induction gap with
  | nil => exact ⟨elements, cuts, renders⟩
  | cons c gap ih =>
      obtain ⟨more, cutsMore, rendersMore⟩ := ih fun other inside =>
        blank other (List.mem_cons_of_mem _ inside)
      have scans := scans_blank (gap ++ text) (blank c List.mem_cons_self)
      exact ⟨⟨[c], .blank⟩ :: more, @Cuts.cons _ ⟨[c], .blank⟩ _ scans cutsMore,
        .blank c rendersMore⟩

/-- A token in front of an interruption is an element of its own. -/
theorem Token.IsRead.cuts_cons {token : Token} (read : token.IsRead) {rest : List Char}
    (interrupts : Interrupts rest) {tokens : List Token} {elements : List Element}
    (cuts : Cuts rest elements) (renders : Renders tokens elements) :
    ∃ more, Cuts (token.lexeme.toList ++ rest) more ∧ Renders (token :: tokens) more := by
  obtain ⟨form, behind, lexeme⟩ := read
  exact ⟨⟨token.lexeme.toList, .token token.kind token.value⟩ :: elements,
    @Cuts.cons _ ⟨token.lexeme.toList, _⟩ _ (lexeme.scans interrupts) cuts, .token token renders⟩

/-- A text of tokens that are set apart is cut into these tokens and blanks. -/
theorem SetApart.exists_cuts {tokens : List Token} {text : List Char}
    (setApart : SetApart tokens text) (read : ∀ token ∈ tokens, token.IsRead) :
    ∃ elements, Cuts text elements ∧ Renders tokens elements := by
  induction setApart with
  | nil => exact ⟨[], .nil, .nil⟩
  | one token =>
      have atEnd : Interrupts [] := fun next none => by cases none
      have whole := (read token List.mem_cons_self).cuts_cons atEnd .nil .nil
      rwa [List.append_nil] at whole
  | @cons token next others gap text nonempty blank _ ih =>
      obtain ⟨elements, cuts, renders⟩ := ih fun other inside =>
        read other (List.mem_cons_of_mem _ inside)
      obtain ⟨more, cutsMore, rendersMore⟩ := cuts.behind_gap blank renders
      have interrupts : Interrupts (gap ++ text) := by
        intro first isFirst
        rw [List.head?_append_of_ne_nil gap nonempty] at isFirst
        exact blank first (List.mem_of_mem_head? isFirst)
      exact (read token List.mem_cons_self).cuts_cons interrupts cutsMore rendersMore

/-- A text restores some tokens: they are what is read of it, apart from their places, and nothing
in it is malformed. -/
structure Restores (file text : String) (tokens : List Token) : Prop where
  wellFormed : (tokenize file text).diagnostics = []
  copies : ∃ copies last, (tokenize file text).tokens = copies ++ [last] ∧
    last.kind = .endOfInput ∧ List.Forall₂ Token.Alike tokens copies

/-- **Tokens that are set apart are restored.** -/
theorem SetApart.restores {tokens : List Token} {text : String}
    (setApart : SetApart tokens text.toList) (read : ∀ token ∈ tokens, token.IsRead)
    (file : String) : Restores file text tokens := by
  obtain ⟨elements, cuts, renders⟩ := setApart.exists_cuts read
  obtain rfl := cuts.eq_elements
  obtain ⟨alike, clean⟩ := renders.placed file .start
  exact ⟨clean, _, _, rfl, rfl, alike⟩

end NumericLanguage
