import Showcase.Rounding

/-!
# Numbers in JSON

A number is kept as the digits it is written with. Two questions are asked of it: whether
it is written as a plain count below `2 ^ 64`, and whether it has a value among the doubles.
The second one follows a fixed way of reading: the significand is collected in 64 bits,
digits that no longer fit only move the decimal point, and the significand and the power
of ten are rounded to doubles before they are multiplied.
-/

namespace Showcase.Json

/-- A number as written: an optional sign, whole digits, and optional fraction and exponent
digits. -/
structure Number where
  negative : Bool
  whole : List Char
  fraction : Option (List Char) := none
  /-- Whether the exponent is negative, and its digits. -/
  exponent : Option (Bool × List Char) := none
  deriving DecidableEq, Repr, Inhabited

def digitsValue (digits : List Char) : Nat :=
  digits.foldl (fun n c => 10 * n + (c.toNat - '0'.toNat)) 0

/-- `n` rounded to a double: to 53 significant bits, a half going to the even neighbour. -/
def roundToDouble (n : Nat) : Nat :=
  if n < Nat.pow 2 53 then n
  else
    let unit := Nat.pow 2 (n.log2 - 52)
    roundQuotient n unit * unit

/-- What rounds to no finite double: the middle between the largest double and the next
number with as many bits, and all beyond it. -/
def doubleLimit : Nat := Nat.pow 2 1024 - Nat.pow 2 970

/-- A significand below `2 ^ 64` and the power of ten it is to be scaled by. -/
structure Scaled where
  significand : Nat
  exponent : Int
  deriving DecidableEq, Repr, Inhabited

namespace Scaled

/-- Whether one more digit fits into the significand. -/
def fits (s : Scaled) (digit : Nat) : Bool :=
  10 * s.significand + digit < UInt64.size

/-- Appends whole digits; from the first that does not fit on they only scale. -/
def appendWhole (s : Scaled) : List Char → Scaled
  | [] => s
  | c :: cs =>
    let digit := c.toNat - '0'.toNat
    if s.fits digit then appendWhole { s with significand := 10 * s.significand + digit } cs
    else { s with exponent := s.exponent + (cs.length + 1) }

/-- Appends fraction digits, up to the first that does not fit. -/
def appendFraction (s : Scaled) : List Char → Scaled
  | [] => s
  | c :: cs =>
    let digit := c.toNat - '0'.toNat
    if s.fits digit then
      appendFraction ⟨10 * s.significand + digit, s.exponent - 1⟩ cs
    else s

/-- Whether the scaled significand is a finite double. -/
def isFinite (s : Scaled) : Bool :=
  s.significand == 0 || s.exponent < 0 ||
    (s.exponent ≤ 308 &&
      roundToDouble s.significand * roundToDouble (Nat.pow 10 s.exponent.toNat) < doubleLimit)

end Scaled

namespace Number

/-- The number that a count is written as. -/
def ofCount (n : UInt64) : Number where
  negative := false
  whole := Nat.toDigits 10 n.toNat

/-- The significand and the power of ten of a number, its sign left aside. -/
def scaled (n : Number) : Scaled :=
  let s := (Scaled.mk 0 0).appendWhole n.whole
  let s := s.appendFraction (n.fraction.getD [])
  match n.exponent with
  | none => s
  | some (true, digits) => { s with exponent := s.exponent - digitsValue digits }
  | some (false, digits) => { s with exponent := s.exponent + digitsValue digits }

/-- Whether the number has a value among the doubles. -/
def isFinite (n : Number) : Bool :=
  n.scaled.isFinite

/-- The count that the number is written as: digits only, and below `2 ^ 64`. -/
def toCount? (n : Number) : Option UInt64 :=
  if n.negative || n.fraction.isSome || n.exponent.isSome then none
  else
    let value := digitsValue n.whole
    if value < UInt64.size then some (UInt64.ofNat value) else none

end Number

end Showcase.Json
