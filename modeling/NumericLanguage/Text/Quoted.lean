import NumericLanguage.Text.Printable

/-!
# Quoted text

A text is quoted so that every character of it can be seen: it stands between two quotes, the
backslash and the quote in use are escaped, and a character without a visible form is written
by its code point. The quote is `'`, unless the text holds `'` and no `"`.
-/

set_option autoImplicit false

namespace NumericLanguage.Text

/-! ## Code points in base sixteen -/

/-- The digit that stands for a number below sixteen. -/
def hexDigit (upper : Bool) (value : Nat) : Char :=
  if value < 10 then Char.ofNat ('0'.toNat + value)
  else Char.ofNat ((if upper then 'A' else 'a').toNat + (value - 10))

/-- The last `width` base-sixteen digits of a number, the most significant first. -/
def hexDigits (upper : Bool) : Nat → Nat → List Char
  | 0, _ => []
  | width + 1, value =>
      hexDigits upper width (value / 16) ++ [hexDigit upper (value % 16)]

/-! ## Quoting -/

/-- The quote that surrounds a text. -/
def quoteFor (text : List Char) : Char :=
  if text.contains '\'' && !text.contains '"' then '"' else '\''

/-- The written form of one character between the given quotes. -/
def quotedCharacter (quote c : Char) : List Char :=
  if c = quote ∨ c = '\\' then ['\\', c]
  else if c = '\n' then ['\\', 'n']
  else if c = '\r' then ['\\', 'r']
  else if c = '\t' then ['\\', 't']
  else if isPrintable c then [c]
  else if c.toNat < 0x100 then '\\' :: 'x' :: hexDigits false 2 c.toNat
  else if c.toNat < 0x10000 then '\\' :: 'u' :: hexDigits false 4 c.toNat
  else '\\' :: 'U' :: hexDigits false 8 c.toNat

/-- The characters of a quoted text. -/
def quotedCharacters (text : List Char) : List Char :=
  let quote := quoteFor text
  quote :: text.flatMap (quotedCharacter quote) ++ [quote]

/-- A text between quotes, with every character visible. -/
def quoted (text : String) : String :=
  String.ofList (quotedCharacters text.toList)

/-- A code point as `U+` and at least four upper-case digits in base sixteen. -/
def codePointName (c : Char) : String :=
  let width := if c.toNat < 0x10000 then 4 else if c.toNat < 0x100000 then 5 else 6
  String.ofList ('U' :: '+' :: hexDigits true width c.toNat)

end NumericLanguage.Text
