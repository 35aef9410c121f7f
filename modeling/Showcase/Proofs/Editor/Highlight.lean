import Mathlib.Data.Nat.Basic
import Showcase.Editor.CodePane
import Showcase.Proofs.Sorting
import Showcase.Proofs.Source.Partition

/-!
# Highlighted lines

A pane is given the lines to highlight in any order and any number of times. It keeps them in
increasing order and each of them once, so that a line can be looked up with few looks, and
none is lost or added on the way. Nothing else that happens to a pane changes them.
-/

namespace Showcase

theorem mem_dropRepeats {n : Nat} {ns : List Nat} : n ∈ dropRepeats ns ↔ n ∈ ns := by
  fun_induction dropRepeats ns with
  | case1 => rfl
  | case2 => rfl
  | case3 m ns ih => simp [ih]
  | case4 m k ns _ ih => rw [List.mem_cons, ih, ← List.mem_cons]

theorem dropRepeats_sublist (ns : List Nat) : (dropRepeats ns).Sublist ns := by
  fun_induction dropRepeats ns with
  | case1 => exact List.Sublist.refl []
  | case2 n => exact List.Sublist.refl [n]
  | case3 m ns ih => exact ih.cons m
  | case4 m k ns _ ih => exact ih.cons_cons m

/-- Whether a step says which lines to highlight. -/
def PaneStep.highlights : PaneStep → Bool
  | highlight _ => true
  | _ => false

namespace CodePane

theorem isHighlighted_iff {p : CodePane} {line : Nat} :
    p.isHighlighted line = true ↔
      ∃ n, p.highlighted[partitionPoint p.highlighted (· < line)]? = some n ∧ n = line := by
  rw [isHighlighted]
  cases p.highlighted[partitionPoint p.highlighted (· < line)]? with
  | none => simp
  | some n => simp

/-- A line is found to be highlighted exactly if it is one of those that were given. -/
theorem isHighlighted_highlight (p : CodePane) (lines : List Nat) (line : Nat) :
    (p.highlight lines).isHighlighted line = true ↔ line ∈ lines := by
  let a : Array Nat := (dropRepeats (lines.mergeSort (· ≤ ·))).toArray
  have h_sorted : a.toList.Pairwise (· ≤ ·) :=
    (pairwise_mergeSort_le (fun n : Nat => n) lines).sublist (dropRepeats_sublist _)
  have h_look : (∃ n, a[partitionPoint a (· < line)]? = some n ∧ n = line) ↔ ∃ n ∈ a, n = line :=
    exists_getElem?_partitionPoint_iff h_sorted line
  rw [isHighlighted_iff]
  refine h_look.trans ?_
  rw [exists_eq_right, List.mem_toArray, mem_dropRepeats, List.mem_mergeSort]

/-- Only a step that says which lines to highlight changes them. -/
theorem highlighted_perform (p : CodePane) {step : PaneStep} (h : step.highlights = false) :
    (p.perform step).highlighted = p.highlighted := by
  cases step with
  | highlight lines => cases h
  | edit text =>
      rw [perform]
      split
      · rfl
      · rfl
  | click line =>
      rw [perform]
      split
      · rfl
      · rfl
  | draw =>
      rw [perform, draw]
      split
      · rfl
      · rfl
  | save written =>
      cases written with
      | true => rfl
      | false => rfl
  | _ => rfl

end CodePane

end Showcase
