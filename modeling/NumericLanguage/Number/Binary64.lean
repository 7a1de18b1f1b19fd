/-!
# Double precision numbers

A finite double is a whole number of at most 53 bits, its significand, times a power of two no
smaller than `2 ^ (-1074)`. Besides these there are the two infinities and the number that is
none. Decimal text is rounded to the nearest double, a half to the even significand; what is
too large becomes infinite.
-/

set_option autoImplicit false

namespace NumericLanguage

/-- A number in double precision. A finite one is `significand * 2 ^ (scale - 1074)`, with
`significand < 2 ^ 53`, and with `2 ^ 52 ≤ significand` unless the scale is zero. -/
inductive Binary64
  | finite (negative : Bool) (significand scale : Nat)
  | infinite (negative : Bool)
  | undefined
  deriving DecidableEq, Repr

namespace Binary64

/-- The quotient of two numbers rounded to the nearest whole number, a half to the even one. -/
def roundedQuotient (numerator denominator : Nat) : Nat :=
  let quotient := numerator / denominator
  let twice := 2 * (numerator % denominator)
  if twice < denominator then quotient
  else if twice = denominator then quotient + quotient % 2
  else quotient + 1

/-- The greatest scale of a finite double. -/
def maxScale : Nat := 2045

/-- The double nearest to the quotient of two numbers, with the given sign. -/
def ofRatio (negative : Bool) (numerator denominator : Nat) : Binary64 :=
  let units := numerator * Nat.pow 2 1074
  let scale := (units / denominator).log2 - 52
  let significand := roundedQuotient units (denominator * Nat.pow 2 scale)
  let carried := significand = Nat.pow 2 53
  let scale := if carried then scale + 1 else scale
  let significand := if carried then Nat.pow 2 52 else significand
  if scale ≤ maxScale then finite negative significand scale else infinite negative

/-- The double nearest to `digits * 10 ^ exponent`, with the given sign. -/
def ofDecimal (negative : Bool) (digits : Nat) (exponent : Int) : Binary64 :=
  if exponent < 0 then ofRatio negative digits (Nat.pow 10 (-exponent).toNat)
  else ofRatio negative (digits * Nat.pow 10 exponent.toNat) 1

/-- One of the two infinities. -/
def isInfinite : Binary64 → Bool
  | infinite _ => true
  | _ => false

end Binary64

end NumericLanguage
