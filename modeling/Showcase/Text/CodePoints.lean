/-!
# Sets of code points

A character class of the Unicode standard is given as data: the ranges of code points
that belong to it, both ends included. `c ∈ s` asks whether some range of `s` holds
the code point of `c`, so a class is decidable without a case for each character.
-/

namespace Showcase.Text

/-- A set of code points, as ranges with both ends included. -/
structure CodePoints where
  ranges : List (Nat × Nat)

namespace CodePoints

/-- Whether the code point `n` lies in one of the ranges. -/
def holds (s : CodePoints) (n : Nat) : Bool :=
  s.ranges.any fun r => r.1 ≤ n && n ≤ r.2

instance : Membership Char CodePoints :=
  ⟨fun s c => s.holds c.toNat = true⟩

instance (c : Char) (s : CodePoints) : Decidable (c ∈ s) :=
  inferInstanceAs (Decidable (s.holds c.toNat = true))

theorem mem_iff {c : Char} {s : CodePoints} :
    c ∈ s ↔ ∃ r ∈ s.ranges, r.1 ≤ c.toNat ∧ c.toNat ≤ r.2 := by
  show s.holds c.toNat = true ↔ _
  simp [holds, List.any_eq_true]

end CodePoints

end Showcase.Text
