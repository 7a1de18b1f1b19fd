import Mathlib.Algebra.Group.Nat.Defs
import NumericLanguage.Token.Element

/-!
# Rounding to double precision

A quotient is rounded to a whole number of steps, and the size of a step is a power of two that
leaves 53 bits, or the smallest one there is. `Binary64.ofRatio_cases` says what comes out. Either
the quotient is at least halfway between the greatest finite double and the next power of two, which
is `(2 ^ 54 - 1) * 2 ^ 970`, and the result is infinite; or it is below, and the result is a finite
double with a whole number of steps nearest to the quotient, a half going to the even one.

The only real literals that are out of range are therefore those from that number on
(`isInfinite_realValue_iff`).
-/

set_option autoImplicit false

namespace NumericLanguage

namespace Binary64

/-! ## Whole numbers -/

/-- A whole number nearest to a quotient, and an even one if two are equally near. -/
structure NearestEven (numerator denominator rounded : Nat) : Prop where
  notBelow : 2 * numerator ≤ 2 * (rounded * denominator) + denominator
  notAbove : 2 * (rounded * denominator) ≤ 2 * numerator + denominator
  even : 2 * numerator = 2 * (rounded * denominator) + denominator ∨
    2 * (rounded * denominator) = 2 * numerator + denominator → rounded % 2 = 0

theorem nearestEven_roundedQuotient (numerator : Nat) {denominator : Nat}
    (positive : 0 < denominator) :
    NearestEven numerator denominator (roundedQuotient numerator denominator) := by
  have parts := Nat.div_add_mod numerator denominator
  have small := Nat.mod_lt numerator positive
  have up : (numerator / denominator + 1) * denominator =
      numerator / denominator * denominator + denominator := Nat.succ_mul _ _
  rw [Nat.mul_comm denominator] at parts
  unfold roundedQuotient
  dsimp only
  split
  · exact ⟨by omega, by omega, by omega⟩
  · split
    · rcases Nat.mod_two_eq_zero_or_one (numerator / denominator) with even | odd
      · rw [even, Nat.add_zero]
        exact ⟨by omega, by omega, fun _ => even⟩
      · rw [odd]
        exact ⟨by omega, by omega, by omega⟩
    · exact ⟨by omega, by omega, by omega⟩

/-- What is rounded comes out below an even number if it is more than a half below it. -/
theorem NearestEven.lt_iff {numerator denominator rounded bound : Nat}
    (nearest : NearestEven numerator denominator rounded) (positive : 0 < denominator)
    (even : bound % 2 = 0) :
    rounded < bound ↔ 2 * numerator + denominator < 2 * (bound * denominator) := by
  obtain ⟨notBelow, notAbove, tie⟩ := nearest
  have up : (rounded + 1) * denominator = rounded * denominator + denominator := Nat.succ_mul _ _
  constructor
  · intro below
    rcases Nat.lt_or_eq_of_le (Nat.succ_le_of_lt below) with further | next
    · have twoSteps : (rounded + 1 + 1) * denominator ≤ bound * denominator :=
        Nat.mul_le_mul_right _ further
      have again : (rounded + 1 + 1) * denominator = (rounded + 1) * denominator + denominator :=
        Nat.succ_mul _ _
      omega
    · -- Next to the bound is an odd number, to which no half is rounded.
      obtain rfl : rounded + 1 = bound := next
      omega
  · intro farBelow
    refine Nat.lt_of_not_le fun atLeast => ?_
    have more : bound * denominator ≤ rounded * denominator := Nat.mul_le_mul_right _ atLeast
    omega

/-! ## Steps -/

/-- The scale at which a number of the smallest steps takes up 53 bits, or no more than that if it
is the smallest scale. -/
def IsScale (units denominator scale : Nat) : Prop :=
  units < denominator * 2 ^ (scale + 53) ∧ (scale = 0 ∨ denominator * 2 ^ (scale + 52) ≤ units)

theorem isScale_log2 (units : Nat) {denominator : Nat} (positive : 0 < denominator) :
    IsScale units denominator ((units / denominator).log2 - 52) := by
  have upper : units / denominator < 2 ^ ((units / denominator).log2 - 52 + 53) :=
    Nat.lt_of_lt_of_le Nat.lt_log2_self (Nat.pow_le_pow_right (by decide) (by omega))
  refine ⟨by rwa [Nat.mul_comm, ← Nat.div_lt_iff_lt_mul positive], ?_⟩
  rcases Nat.eq_zero_or_pos ((units / denominator).log2 - 52) with smallest | larger
  · exact .inl smallest
  · have nonzero : units / denominator ≠ 0 := by
      intro none_left
      rw [none_left, Nat.log2_zero] at larger
      omega
    have whole : (units / denominator).log2 - 52 + 52 = (units / denominator).log2 := by omega
    have lower := (Nat.le_div_iff_mul_le positive).mp (Nat.log2_self_le nonzero)
    rw [whole, Nat.mul_comm]
    exact .inr lower

section Scales

variable {units denominator scale rounded : Nat}

/-- At the scale of a number, rounding leaves 53 bits or the next power of two. -/
theorem NearestEven.bounds (nearest : NearestEven units (denominator * 2 ^ scale) rounded)
    (isScale : IsScale units denominator scale) (positive : 0 < denominator) :
    rounded ≤ 2 ^ 53 ∧ (scale = 0 ∨ 2 ^ 52 ≤ rounded) := by
  have step : 0 < denominator * 2 ^ scale := Nat.mul_pos positive (Nat.two_pow_pos _)
  obtain ⟨upper, lower⟩ := isScale
  have bits (count : Nat) :
      denominator * 2 ^ (scale + count) = 2 ^ count * (denominator * 2 ^ scale) := by
    rw [Nat.pow_add, ← Nat.mul_assoc, Nat.mul_comm]
  rw [bits] at upper lower
  refine ⟨Nat.le_of_not_lt fun above => ?_, lower.imp_right fun atLeast => ?_⟩
  · have more : (2 ^ 53 + 1) * (denominator * 2 ^ scale) ≤ rounded * (denominator * 2 ^ scale) :=
      Nat.mul_le_mul_right _ above
    have notAbove := nearest.notAbove
    omega
  · refine Nat.le_of_not_lt fun below => ?_
    have farBelow := (nearest.lt_iff step (by decide)).mp below
    omega

/-- A number at a scale is more than half a step of the greatest scale below the next power of two
if its scale is smaller, and not if its scale is greater. -/
theorem IsScale.far_below (isScale : IsScale units denominator scale) (positive : 0 < denominator)
    (smaller : scale < maxScale) :
    2 * units + denominator * 2 ^ maxScale < 2 * (2 ^ 53 * (denominator * 2 ^ maxScale)) := by
  have step : 0 < denominator * 2 ^ maxScale := Nat.mul_pos positive (Nat.two_pow_pos _)
  have bound : denominator * 2 ^ (scale + 53) ≤ 2 ^ 52 * (denominator * 2 ^ maxScale) := by
    rw [Nat.mul_left_comm, ← Nat.pow_add]
    exact Nat.mul_le_mul_left _ (Nat.pow_le_pow_right (by decide) (by omega))
  have upper := isScale.1
  omega

theorem IsScale.not_below (isScale : IsScale units denominator scale)
    (greater : maxScale < scale) : 2 ^ 53 * (denominator * 2 ^ maxScale) ≤ units := by
  have lower := isScale.2.resolve_left (Nat.ne_zero_of_lt greater)
  refine Nat.le_trans ?_ lower
  rw [Nat.mul_left_comm, ← Nat.pow_add]
  exact Nat.mul_le_mul_left _ (Nat.pow_le_pow_right (by decide) (by omega))

/-- The next power of two is as near in steps of twice the size. -/
theorem NearestEven.carried (nearest : NearestEven units (denominator * 2 ^ scale) (2 ^ 53)) :
    NearestEven units (denominator * 2 ^ (scale + 1)) (2 ^ 52) := by
  obtain ⟨notBelow, notAbove, -⟩ := nearest
  rw [Nat.pow_succ, ← Nat.mul_assoc]
  exact ⟨by omega, by omega, fun _ => by decide⟩

end Scales

/-! ## Quotients -/

/-- The least number that is rounded to an infinite double. It is halfway between the greatest
finite double and the next power of two. -/
def leastInfinite : Nat := (2 ^ 54 - 1) * 2 ^ 970

/-- A number in the smallest steps, of `2 ^ (-1074)`. -/
def smallestSteps (numerator : Nat) : Nat := numerator * Nat.pow 2 1074

/-- Half a step below a power of two, counted in smaller steps. -/
theorem halfway_le_iff {least numerator units exponent smaller scale : Nat}
    (isLeast : least = (2 ^ 54 - 1) * 2 ^ exponent)
    (inSteps : units = numerator * Nat.pow 2 smaller)
    (total : scale = exponent + (smaller + 1)) (denominator : Nat) :
    least * denominator ≤ numerator ↔
      ¬ 2 * units + denominator * 2 ^ scale < 2 * (2 ^ 53 * (denominator * 2 ^ scale)) := by
  have common : 0 < 2 ^ (smaller + 1) := Nat.two_pow_pos _
  have left : least * denominator * 2 ^ (smaller + 1) =
      (2 ^ 54 - 1) * (denominator * 2 ^ scale) := by
    rw [isLeast, total, Nat.pow_add _ exponent, Nat.mul_assoc (2 ^ 54 - 1),
      Nat.mul_assoc (2 ^ 54 - 1), Nat.mul_comm (2 ^ exponent), Nat.mul_assoc denominator]
  have right : numerator * 2 ^ (smaller + 1) = 2 * units := by
    rw [inSteps, Nat.pow_eq, Nat.pow_succ, ← Nat.mul_assoc, Nat.mul_comm]
  rw [← Nat.mul_le_mul_right_iff common, left, right]
  omega

/-- In steps of the greatest scale, the least number with an infinite double is half a step below
the next power of two. -/
theorem leastInfinite_le_iff (numerator denominator : Nat) :
    leastInfinite * denominator ≤ numerator ↔
      ¬ 2 * smallestSteps numerator + denominator * 2 ^ maxScale <
        2 * (2 ^ 53 * (denominator * 2 ^ maxScale)) := by
  have total : maxScale = 970 + (1074 + 1) := rfl
  have halfway := halfway_le_iff leastInfinite.eq_def (smallestSteps.eq_def numerator) total
    denominator
  exact halfway

/-- **What rounding does.** A number from the least one with an infinite double on becomes infinite.
Any other becomes a finite double: at most 53 bits, and fewer only with the smallest step, and a
whole number of steps nearest to the number, a half going to the even one. -/
theorem ofRatio_cases (negative : Bool) (numerator : Nat) {denominator : Nat}
    (positive : 0 < denominator) :
    (leastInfinite * denominator ≤ numerator ∧
      ofRatio negative numerator denominator = infinite negative) ∨
    (numerator < leastInfinite * denominator ∧
      ∃ significand scale,
        ofRatio negative numerator denominator = finite negative significand scale ∧
        scale ≤ maxScale ∧ significand < 2 ^ 53 ∧ (scale = 0 ∨ 2 ^ 52 ≤ significand) ∧
        NearestEven (smallestSteps numerator) (denominator * 2 ^ scale) significand) := by
  have isScale := isScale_log2 (smallestSteps numerator) positive
  have within := leastInfinite_le_iff numerator denominator
  rw [← Nat.not_le, within, Decidable.not_not, ofRatio]
  rw [show numerator * Nat.pow 2 1074 = smallestSteps numerator from rfl]
  generalize smallestSteps numerator = units at *
  generalize (units / denominator).log2 - 52 = scale at *
  simp only [Nat.pow_eq]
  have step : 0 < denominator * 2 ^ scale := Nat.mul_pos positive (Nat.two_pow_pos _)
  have nearest := nearestEven_roundedQuotient units step
  obtain ⟨most, least⟩ := nearest.bounds isScale positive
  have below := nearest.lt_iff step (show 2 ^ 53 % 2 = 0 by decide)
  generalize roundedQuotient units (denominator * 2 ^ scale) = rounded at *
  rcases Nat.lt_trichotomy scale maxScale with smaller | same | greater
  · refine .inr ⟨isScale.far_below positive smaller, ?_⟩
    by_cases carried : rounded = 2 ^ 53
    · subst carried
      exact ⟨2 ^ 52, scale + 1, by rw [if_pos rfl, if_pos rfl, if_pos (Nat.succ_le_of_lt smaller)],
        smaller, by decide, .inr (Nat.le_refl _), nearest.carried⟩
    · exact ⟨rounded, scale, by rw [if_neg carried, if_neg carried, if_pos (Nat.le_of_lt smaller)],
        Nat.le_of_lt smaller, Nat.lt_of_le_of_ne most carried, least, nearest⟩
  · subst same
    by_cases carried : rounded = 2 ^ 53
    · refine .inl ⟨fun farBelow => ?_, ?_⟩
      · exact absurd carried (Nat.ne_of_lt (below.mpr farBelow))
      · rw [if_pos carried, if_neg (Nat.not_succ_le_self _)]
    · have less := Nat.lt_of_le_of_ne most carried
      exact .inr ⟨below.mp less, rounded, maxScale, by rw [if_neg carried, if_neg carried,
        if_pos (Nat.le_refl _)], Nat.le_refl _, less, least, nearest⟩
  · have above := isScale.not_below greater
    refine .inl ⟨fun farBelow => by omega, ?_⟩
    split
    · rw [if_neg (by omega)]
    · rw [if_neg (by omega)]

/-- Exactly the numbers from `leastInfinite` on become infinite. -/
theorem isInfinite_ofRatio_iff (negative : Bool) (numerator : Nat) {denominator : Nat}
    (positive : 0 < denominator) :
    (ofRatio negative numerator denominator).isInfinite = true ↔
      leastInfinite * denominator ≤ numerator := by
  rcases ofRatio_cases negative numerator positive with ⟨atLeast, same⟩ | ⟨below, _, _, same, -⟩
  · rw [same]
    exact iff_of_true rfl atLeast
  · rw [same]
    exact iff_of_false Bool.false_ne_true (Nat.not_le_of_lt below)

end Binary64

open Binary64

/-- **Which real literals are out of range**: those of the numbers from `leastInfinite` on. -/
theorem isInfinite_realValue_iff (whole fraction : List Char) :
    (realValue whole fraction).isInfinite = true ↔
      leastInfinite * 10 ^ fraction.length ≤ Number.decimalValue (whole ++ fraction) := by
  rw [realValue, ofDecimal]
  split
  · rw [Int.neg_neg, Int.toNat_natCast, Nat.pow_eq,
      isInfinite_ofRatio_iff _ _ (Nat.pow_pos (by decide))]
  · have noFraction : fraction.length = 0 := by omega
    rw [noFraction, isInfinite_ofRatio_iff _ _ (by decide), Int.natCast_zero, Int.neg_zero,
      Int.toNat_zero, Nat.pow_eq, Nat.pow_zero, Nat.mul_one, Nat.mul_one]

end NumericLanguage
