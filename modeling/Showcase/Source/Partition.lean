/-!
# Partition points

In an array whose entries first satisfy a test and then no longer do, the partition point
is the number of entries that do. Halving finds it with few looks.
-/

namespace Showcase

/-- The partition point of `a` for `test`, known to lie between `low` and `high`. -/
def partitionBetween {α : Type} (a : Array α) (test : α → Bool) (low high : Nat)
    (h : high ≤ a.size) : Nat :=
  if hlt : low < high then
    let middle := (low + high) / 2
    have : middle < a.size := by omega
    if test a[middle] then partitionBetween a test (middle + 1) high h
    else partitionBetween a test low middle (by omega)
  else low
termination_by high - low

/-- The number of leading entries that satisfy `test`, in an array where these are all the
entries that do. -/
def partitionPoint {α : Type} (a : Array α) (test : α → Bool) : Nat :=
  partitionBetween a test 0 a.size (Nat.le_refl _)

end Showcase
