import NumericLanguage.Number.Binary64

/-!
# The shortest decimal of a double

Of the decimals that round to a given double, the shortest one is chosen: it has the fewest
digits, and among those with equally many it is the one nearest to the double. Seventeen digits
always suffice.

For a given number of digits only two decimals can qualify, the neighbours of the exact value
below and above.
-/

set_option autoImplicit false

namespace NumericLanguage

/-- The decimal `digits * 10 ^ exponent`. -/
structure Decimal where
  digits : Nat
  exponent : Int
  deriving DecidableEq, Repr

namespace Decimal

/-- The double that a nonnegative decimal rounds to. -/
def toBinary64 (decimal : Decimal) : Binary64 :=
  Binary64.ofDecimal false decimal.digits decimal.exponent

/-- The same decimal without zeros at the end of its digits, dropping at most `fuel` of them. -/
def trimmed : Nat → Decimal → Decimal
  | 0, decimal => decimal
  | fuel + 1, decimal =>
      if decimal.digits % 10 = 0 ∧ decimal.digits ≠ 0 then
        trimmed fuel ⟨decimal.digits / 10, decimal.exponent + 1⟩
      else decimal

end Decimal

namespace Binary64

/-- The exponent of the leading decimal digit of `significand * 2 ^ (scale - 1074)`. -/
def leadingExponent (significand scale : Nat) : Int :=
  let scaled := significand * Nat.pow 2 scale * Nat.pow 10 400 / Nat.pow 2 1074
  (Nat.toDigits 10 scaled).length - 401

/-- The decimal of the given number of digits that rounds to the finite double, if there is one:
the neighbour below or above the exact value, the nearer if both qualify, the even one if they
are equally near. -/
def decimalOfLength (significand scale : Nat) (leading : Int) (length : Nat) : Option Decimal :=
  let exponent : Int := leading + 1 - length
  let units := significand * Nat.pow 2 scale
  let numerator := if exponent < 0 then units * Nat.pow 10 (-exponent).toNat else units
  let denominator :=
    if exponent < 0 then Nat.pow 2 1074 else Nat.pow 2 1074 * Nat.pow 10 exponent.toNat
  let below : Decimal := ⟨numerator / denominator, exponent⟩
  let above : Decimal := ⟨numerator / denominator + 1, exponent⟩
  let nearest : Decimal := ⟨roundedQuotient numerator denominator, exponent⟩
  let readsBack (decimal : Decimal) : Bool :=
    decimal.toBinary64 = finite false significand scale
  if readsBack below && readsBack above then some nearest
  else if readsBack below then some below
  else if readsBack above then some above
  else none

/-- The shortest decimal that rounds to `significand * 2 ^ (scale - 1074)`, without zeros at the
end of its digits. -/
def shortest (significand scale : Nat) : Decimal :=
  if significand = 0 then ⟨0, 0⟩
  else
    let leading := leadingExponent significand scale
    let lengths := (List.range 17).map (· + 1)
    let found := lengths.findSome? (decimalOfLength significand scale leading)
    (found.getD ⟨0, 0⟩).trimmed 20

end Binary64

end NumericLanguage
