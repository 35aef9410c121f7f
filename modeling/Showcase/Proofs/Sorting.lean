import Mathlib.Order.Lattice

/-!
# Sorting by a rank

Merge sort is stable: among the entries of a list, those that are in order already come out in
the order in which they were. So when a list is made of parts that are in order, what is taken
out of the sorted list again is the part as it was.
-/

namespace Showcase

variable {α β : Type} [LinearOrder β] (rank : α → β)

theorem decide_le_trans (a b c : α) (hab : decide (rank a ≤ rank b) = true)
    (hbc : decide (rank b ≤ rank c) = true) : decide (rank a ≤ rank c) = true :=
  decide_eq_true (le_trans (of_decide_eq_true hab) (of_decide_eq_true hbc))

theorem decide_le_total (a b : α) :
    (decide (rank a ≤ rank b) || decide (rank b ≤ rank a)) = true := by
  rw [Bool.or_eq_true, decide_eq_true_eq, decide_eq_true_eq]
  exact le_total (rank a) (rank b)

theorem pairwise_mergeSort_le (l : List α) :
    (l.mergeSort fun a b => decide (rank a ≤ rank b)).Pairwise fun a b => rank a ≤ rank b :=
  (List.pairwise_mergeSort (decide_le_trans rank) (decide_le_total rank) l).imp of_decide_eq_true

variable {rank}

theorem sublist_mergeSort_le {part l : List α} (h : part.Pairwise fun a b => rank a ≤ rank b)
    (h_part : part.Sublist l) : part.Sublist (l.mergeSort fun a b => decide (rank a ≤ rank b)) :=
  List.sublist_mergeSort (decide_le_trans rank) (decide_le_total rank)
    (h.imp decide_eq_true) h_part

/-- Entries that are in order among themselves keep it when the others are sorted in. -/
theorem filter_mergeSort_le {p : α → Bool} {l : List α}
    (h : (l.filter p).Pairwise fun a b => rank a ≤ rank b) :
    (l.mergeSort fun a b => decide (rank a ≤ rank b)).filter p = l.filter p := by
  have h_part := (sublist_mergeSort_le h List.filter_sublist).filter p
  have h_perm : ((l.mergeSort fun a b => decide (rank a ≤ rank b)).filter p).Perm (l.filter p) :=
    (List.mergeSort_perm l _).filter p
  rw [List.filter_filter, funext fun a => Bool.and_self (p a)] at h_part
  exact (h_part.eq_of_length h_perm.length_eq.symm).symm

end Showcase
