/-!
# Reserved words

The words of the language that cannot name a variable: the two type names, the words of the
conditional and the loop, the two for input and output, and the two truth values.

Every keyword has exactly one spelling, and a spelling reads back as its keyword
(`Keyword.ofSpelling?_eq_some_iff`).
-/

set_option autoImplicit false

namespace NumericLanguage

/-- A reserved word. -/
inductive Keyword
  | longType
  | doubleType
  | ifWord
  | thenWord
  | elseWord
  | whileWord
  | breakWord
  | readWord
  | writeWord
  | trueWord
  | falseWord
  deriving DecidableEq, Repr

namespace Keyword

/-- All keywords. -/
def all : List Keyword :=
  [longType, doubleType, ifWord, thenWord, elseWord, whileWord, breakWord, readWord, writeWord,
    trueWord, falseWord]

/-- How a keyword is written in a program. -/
def spelling : Keyword → List Char
  | longType => ['l', 'o', 'n', 'g']
  | doubleType => ['d', 'o', 'u', 'b', 'l', 'e']
  | ifWord => ['i', 'f']
  | thenWord => ['t', 'h', 'e', 'n']
  | elseWord => ['e', 'l', 's', 'e']
  | whileWord => ['w', 'h', 'i', 'l', 'e']
  | breakWord => ['b', 'r', 'e', 'a', 'k']
  | readWord => ['r', 'e', 'a', 'd']
  | writeWord => ['w', 'r', 'i', 't', 'e']
  | trueWord => ['t', 'r', 'u', 'e']
  | falseWord => ['f', 'a', 'l', 's', 'e']

/-- The keyword with a given spelling. -/
def ofSpelling? (text : List Char) : Option Keyword :=
  all.find? fun word => word.spelling = text

/-- The printed name of a keyword. -/
def name : Keyword → String
  | longType => "LONG"
  | doubleType => "DOUBLE"
  | ifWord => "IF"
  | thenWord => "THEN"
  | elseWord => "ELSE"
  | whileWord => "WHILE"
  | breakWord => "BREAK"
  | readWord => "READ"
  | writeWord => "WRITE"
  | trueWord => "TRUE"
  | falseWord => "FALSE"

theorem mem_all (word : Keyword) : word ∈ all := by
  cases word <;> decide

theorem spelling_injective {first second : Keyword} (same : first.spelling = second.spelling) :
    first = second := by
  cases first <;> cases second <;> first | rfl | cases same

/-- A text reads as a keyword exactly when it is the spelling of it. -/
theorem ofSpelling?_eq_some_iff {text : List Char} {word : Keyword} :
    ofSpelling? text = some word ↔ word.spelling = text := by
  constructor
  · intro found
    have := List.find?_some found
    simpa using this
  · rintro rfl
    cases word <;> rfl

end Keyword

end NumericLanguage
