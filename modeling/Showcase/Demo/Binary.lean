import Showcase.Demo.Decimal

/-!
# Binary precision

A value kept in binary is a whole number of halves of halves of one: it has so many
significant bits, and a unit that can only be halved so often. Every such value is a decimal
too, since a half is five tenths, and this is how it is kept here. It is shown by the
fewest places that still tell it apart, that is, that round to it again.
-/

namespace Showcase

/-- A way to keep numbers in binary. -/
structure Precision where
  bits : Nat
  halvings : Nat
  deriving DecidableEq, Repr, Inhabited

namespace Precision

def single : Precision := ⟨24, 149⟩

def double : Precision := ⟨53, 1074⟩

/-- The number of halvings, at most `n`, that leaves a quotient within so many bits. -/
def halvingsFor (p : Precision) (numerator denominator : Nat) : Nat → Nat
  | 0 => 0
  | n + 1 =>
    if numerator * Nat.pow 2 (n + 1) < denominator * Nat.pow 2 p.bits then n + 1
    else p.halvingsFor numerator denominator n

/-- The value nearest to `a`, a half going to the even neighbour. This is for magnitudes
below `2 ^ bits`, in which every whole number has a value of its own. -/
def nearest (p : Precision) (a : Decimal) : Decimal :=
  let numerator := a.mantissa.natAbs
  let n := p.halvingsFor numerator a.one p.halvings
  ⟨a.withSign (roundQuotient (numerator * Nat.pow 2 n) a.one * Nat.pow 5 n), n⟩

/-- The decimal with the fewest places that has the value `a` as its nearest. -/
def shortest (p : Precision) (a : Decimal) : Decimal :=
  ((List.range a.places).findSome? fun places =>
    (a.neighbours places).find? fun d => (p.nearest d).sameAs a).getD a

end Precision

end Showcase
