import Showcase.Rounding

/-!
# Decimals

A decimal is a whole number divided by a power of ten. Sliders are set to decimals: a value
is clamped to the range of the slider, and a slider over whole numbers rounds it. A slider
over fractions keeps its value in binary, which `Showcase.Demo.Binary` is about.
-/

namespace Showcase

/-- The number `mantissa / 10 ^ places`. -/
structure Decimal where
  mantissa : Int
  places : Nat := 0
  deriving DecidableEq, Repr, Inhabited

namespace Decimal

def one (a : Decimal) : Nat :=
  Nat.pow 10 a.places

def sameAs (a b : Decimal) : Bool :=
  a.mantissa * b.one == b.mantissa * a.one

def atMost (a : Decimal) (n : Int) : Bool :=
  a.mantissa ≤ n * a.one

def atLeast (a : Decimal) (n : Int) : Bool :=
  n * a.one ≤ a.mantissa

/-- The number nearest to `a` between two whole numbers. -/
def clamp (a : Decimal) (low high : Int) : Decimal :=
  if !a.atLeast low then ⟨low, 0⟩ else if !a.atMost high then ⟨high, 0⟩ else a

def withSign (a : Decimal) (n : Nat) : Int :=
  if a.mantissa < 0 then -n else n

/-- The nearest whole number, a half going away from zero. -/
def round (a : Decimal) : Int :=
  a.withSign (roundQuotientUp a.mantissa.natAbs a.one)

/-- The two decimals with `places` places around `a`, the nearer first; of two that are
equally near, the one farther from zero. -/
def neighbours (a : Decimal) (places : Nat) : List Decimal :=
  let numerator := a.mantissa.natAbs * Nat.pow 10 places
  let below := numerator / a.one
  let near := roundQuotientUp numerator a.one
  [⟨a.withSign near, places⟩, ⟨a.withSign (if near = below then below + 1 else below), places⟩]

/-- The digits of a fraction below one, without zeros at the end but at least one digit. -/
def fractionText (fraction : Nat) : Nat → String
  | 0 => "0"
  | places + 1 =>
    if places ≠ 0 && fraction % 10 = 0 then fractionText (fraction / 10) places
    else
      let digits := Nat.toDigits 10 fraction
      String.ofList (List.replicate (places + 1 - digits.length) '0' ++ digits)

/-- The magnitude with a point and at least one digit on either side of it. -/
def positionalText (a : Decimal) : String :=
  let magnitude := a.mantissa.natAbs
  s!"{magnitude / a.one}.{fractionText (magnitude % a.one) a.places}"

/-- The magnitude as one digit, the other digits behind a point if there are any, and the
power of ten that it is scaled by. -/
def scientificText (a : Decimal) : String :=
  match Nat.toDigits 10 a.mantissa.natAbs with
  | [] => "0"
  | first :: rest =>
    let point := if rest.isEmpty then [] else ['.']
    s!"{String.ofList (first :: point ++ rest)}e{(rest.length : Int) - a.places}"

/-- The decimal as text: scientific below a ten-thousandth, positional otherwise. -/
def text (a : Decimal) : String :=
  let sign := if a.mantissa < 0 then "-" else ""
  let magnitude := a.mantissa.natAbs
  if magnitude ≠ 0 && magnitude * 10000 < a.one then sign ++ a.scientificText
  else sign ++ a.positionalText

end Decimal

end Showcase
