import NumericLanguage.Number.Decimal
import NumericLanguage.Number.Shortest

/-!
# The text of a double

A double is written with its shortest decimal. The decimal point stands among the digits when
the leading digit has an exponent from -4 to 15, and then at least one digit follows it;
otherwise one digit stands before the point and the exponent is written with a sign and at
least two digits. The two infinities are `inf` and `-inf`, and the undefined number is `nan`.
-/

set_option autoImplicit false

namespace NumericLanguage.Binary64

/-! ## Writing -/

/-- The digits with the point where the leading exponent puts it. -/
def positionalText (digits : List Char) (leading : Int) : List Char :=
  if leading < 0 then
    '0' :: '.' :: (List.replicate (-leading - 1).toNat '0' ++ digits)
  else
    let whole := leading.toNat + 1
    let padded := digits ++ List.replicate (whole - digits.length) '0'
    let fraction := padded.drop whole
    padded.take whole ++ '.' :: (if fraction.isEmpty then ['0'] else fraction)

/-- The digits with one of them before the point, and the leading exponent. -/
def exponentText (digits : List Char) (leading : Int) : List Char :=
  let mantissa := match digits with
    | [] => []
    | [digit] => [digit]
    | digit :: fraction => digit :: '.' :: fraction
  let magnitude := Nat.toDigits 10 leading.natAbs
  let padded := if magnitude.length < 2 then '0' :: magnitude else magnitude
  mantissa ++ 'e' :: (if leading < 0 then '-' else '+') :: padded

/-- The text of a finite double without its sign. -/
def magnitudeText (significand scale : Nat) : List Char :=
  if significand = 0 then ['0', '.', '0']
  else
    let decimal := shortest significand scale
    let digits := Nat.toDigits 10 decimal.digits
    let leading := decimal.exponent + digits.length - 1
    if -4 ≤ leading ∧ leading < 16 then positionalText digits leading
    else exponentText digits leading

/-- The text of a double. -/
def text : Binary64 → String
  | finite negative significand scale =>
      (if negative then "-" else "") ++ String.ofList (magnitudeText significand scale)
  | infinite negative => if negative then "-inf" else "inf"
  | undefined => "nan"

/-! ## Reading -/

/-- Reads digits, then an optional fraction, then an optional exponent. -/
def readMagnitude? (negative : Bool) (characters : List Char) : Option Binary64 :=
  let whole := characters.takeWhile Char.isDigit
  let afterWhole := characters.dropWhile Char.isDigit
  let fraction := match afterWhole with
    | '.' :: rest => rest.takeWhile Char.isDigit
    | _ => []
  let afterFraction := match afterWhole with
    | '.' :: rest => rest.dropWhile Char.isDigit
    | rest => rest
  let exponent? : Option Int := match afterFraction with
    | [] => some 0
    | 'e' :: '-' :: digits =>
        if digits ≠ [] ∧ digits.all Char.isDigit then some (-(Number.decimalValue digits))
        else none
    | 'e' :: '+' :: digits | 'e' :: digits =>
        if digits ≠ [] ∧ digits.all Char.isDigit then some (Number.decimalValue digits)
        else none
    | _ => none
  if whole.isEmpty then none
  else exponent?.map fun exponent =>
    ofDecimal negative (Number.decimalValue (whole ++ fraction)) (exponent - fraction.length)

/-- Reads the text of a double. -/
def read? (characters : List Char) : Option Binary64 :=
  let negative := characters.head? = some '-'
  let magnitude := if negative then characters.drop 1 else characters
  if magnitude = ['n', 'a', 'n'] then some undefined
  else if magnitude = ['i', 'n', 'f'] then some (infinite negative)
  else readMagnitude? negative magnitude

end NumericLanguage.Binary64
