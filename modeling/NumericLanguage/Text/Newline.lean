/-!
# Line ends

A text file may end its lines with `\n`, with `\r\n` or with a lone `\r`. Reading one turns each
of the three into `\n` and leaves every other character alone.
-/

set_option autoImplicit false

namespace NumericLanguage.Text

/-- Every line end as a single `\n`. -/
def foldNewlines : List Char → List Char
  | [] => []
  | '\r' :: '\n' :: rest => '\n' :: foldNewlines rest
  | c :: rest => (if c = '\r' then '\n' else c) :: foldNewlines rest

end NumericLanguage.Text
