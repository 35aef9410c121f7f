import Showcase.Source.Partition

/-!
# What halving finds

The search keeps two bounds: every entry before the lower one satisfies the test, and no
entry from the upper one on does. In an array in which the test never comes back once it
has failed, the bounds meet at the number of entries that satisfy it.
-/

namespace Showcase

variable {α : Type} {a : Array α} {test : α → Bool}

/-- In `a`, an entry that satisfies `test` comes before every entry that does not. -/
def Partitioned (a : Array α) (test : α → Bool) : Prop :=
  ∀ i j (hij : i < j) (hj : j < a.size), test a[j] = true → test a[i] = true

theorem partitionBetween_spec (ha : Partitioned a test) {low high : Nat} (h : high ≤ a.size)
    (hle : low ≤ high) (hlow : ∀ i (hi : i < a.size), i < low → test a[i] = true)
    (hhigh : ∀ i (hi : i < a.size), high ≤ i → test a[i] = false) :
    partitionBetween a test low high h ≤ a.size ∧
      ∀ i (hi : i < a.size), test a[i] = true ↔ i < partitionBetween a test low high h := by
  fun_induction partitionBetween a test low high h with
  | case1 low high h hlt middle hmiddle htest ih =>
      have hmid : middle < high := by omega
      refine ih hmid ?_ hhigh
      intro i hi him
      rcases Nat.lt_or_eq_of_le (Nat.le_of_lt_succ him) with him | rfl
      · exact ha i middle him hmiddle htest
      · exact htest
  | case2 low high h hlt middle hmiddle htest ih =>
      have hmid : low ≤ middle := by omega
      refine ih hmid hlow ?_
      intro i hi him
      rw [Bool.eq_false_iff]
      intro hi_test
      rcases Nat.lt_or_eq_of_le him with him | rfl
      · exact htest (ha middle i him hi hi_test)
      · exact htest hi_test
  | case3 low high h hlt =>
      obtain rfl : low = high := by omega
      refine ⟨h, ?_⟩
      intro i hi
      constructor
      · intro hi_test
        rcases Nat.lt_or_ge i low with hlt | hge
        · exact hlt
        · rw [hhigh i hi hge] at hi_test
          cases hi_test
      · exact hlow i hi

/-- The entries that satisfy the test are those before the partition point. -/
theorem partitionPoint_spec (ha : Partitioned a test) :
    partitionPoint a test ≤ a.size ∧
      ∀ i (hi : i < a.size), test a[i] = true ↔ i < partitionPoint a test := by
  refine partitionBetween_spec ha _ (Nat.zero_le _) ?_ ?_
  · intro i _ hi
    exact absurd hi (Nat.not_lt_zero i)
  · intro i hi hle
    exact absurd hle (Nat.not_le_of_lt hi)

/-! ## Looking a key up -/

theorem partitioned_lt {key : α → Nat} (ha : a.toList.Pairwise fun x y => key x ≤ key y)
    (n : Nat) : Partitioned a fun x => key x < n := by
  intro i j hij hj h_lt
  have h_le : key a[i] ≤ key a[j] := List.pairwise_iff_getElem.1 ha i j _ hj hij
  rw [decide_eq_true_eq] at h_lt ⊢
  exact Nat.lt_of_le_of_lt h_le h_lt

/-- In an array in the order of a key, a key is found at the number of smaller ones or not at
all. -/
theorem exists_getElem?_partitionPoint_iff {key : α → Nat}
    (ha : a.toList.Pairwise fun x y => key x ≤ key y) (n : Nat) :
    (∃ x, a[partitionPoint a fun x => key x < n]? = some x ∧ key x = n) ↔
      ∃ x ∈ a, key x = n := by
  obtain ⟨h_size, h_test⟩ := partitionPoint_spec (partitioned_lt ha n)
  generalize (partitionPoint a fun x => key x < n) = point at h_size h_test ⊢
  constructor
  · rintro ⟨x, hx, h_key⟩
    exact ⟨x, Array.mem_of_getElem? hx, h_key⟩
  · rintro ⟨x, hx, h_key⟩
    obtain ⟨i, hi, rfl⟩ := Array.mem_iff_getElem.1 hx
    have h_point : point ≤ i := by
      rw [← Nat.not_lt, ← h_test i hi, decide_eq_true_eq, h_key]
      exact Nat.lt_irrefl n
    have h_lt : point < a.size := Nat.lt_of_le_of_lt h_point hi
    have h_ge : n ≤ key a[point] := by
      rw [← Nat.not_lt, ← decide_eq_true_eq (p := key a[point] < n), h_test point h_lt]
      exact Nat.lt_irrefl point
    have h_le : key a[point] ≤ key a[i] := by
      rcases Nat.eq_or_lt_of_le h_point with rfl | h_before
      · exact Nat.le_refl _
      · exact List.pairwise_iff_getElem.1 ha point i _ hi h_before
    exact ⟨a[point], Array.getElem?_eq_getElem h_lt,
      Nat.le_antisymm (Nat.le_trans h_le (Nat.le_of_eq h_key)) h_ge⟩

end Showcase
