/-!
# Rounding

A quotient of counts is rounded to the nearest whole number. Of two that are equally near
the even one is taken for numbers kept in binary, and the larger one for numbers that are
shown or set by hand.
-/

namespace Showcase

/-- The whole number nearest to a quotient, a half going to the even neighbour. -/
def roundQuotient (numerator denominator : Nat) : Nat :=
  let quotient := numerator / denominator
  let remainder := 2 * (numerator % denominator)
  if remainder < denominator || (remainder == denominator && quotient % 2 == 0) then quotient
  else quotient + 1

/-- The whole number nearest to a quotient, a half going up. -/
def roundQuotientUp (numerator denominator : Nat) : Nat :=
  (2 * numerator + denominator) / (2 * denominator)

end Showcase
