/-!
# Decimal digit strings

The value of a run of decimal digits, the most significant first.
-/

set_option autoImplicit false

namespace NumericLanguage.Number

/-- The value of one decimal digit. -/
def digitValue (c : Char) : Nat := c.toNat - '0'.toNat

/-- The value of a run of decimal digits. -/
def decimalValue (digits : List Char) : Nat :=
  digits.foldl (fun value c => value * 10 + digitValue c) 0

end NumericLanguage.Number
