import Mathlib.Data.List.Basic
import Showcase.Proofs.Editor.Landing

/-!
# Where the cursor of a code pane is

A jump, a click and a new text put the cursor on a line that there is. An edit leaves it where
it was, and so cuts the text off above it if too few lines are left. The cursor is then outside
of the text until a step settles it, and it is nowhere else: it is in the text exactly if every
edit that cut the text off was mended by a later step.
-/

namespace Showcase

/-- A pane and the step that is performed on it. -/
structure PaneMoment where
  before : CodePane
  step : PaneStep

namespace PaneMoment

/-- Whether the step is an edit that leaves too few lines for the cursor. -/
def CutsOff (m : PaneMoment) : Prop :=
  match m.step with
  | .edit text =>
    m.before.editing = true ∧ max 1 (CodePane.linesOf text).length < m.before.cursor.line
  | _ => False

/-- Whether the step puts the cursor on a line of the text, or gives the text enough lines for
the cursor. -/
def Settles (m : PaneMoment) : Prop :=
  match m.step with
  | .replaceText _ => True
  | .jump _ => True
  | .click line => m.before.displays line = true
  | .edit text =>
    m.before.editing = true ∧ m.before.cursor.line ≤ max 1 (CodePane.linesOf text).length
  | _ => False

/-- Every moment that cuts the text off is followed by one that settles the cursor. -/
def Mended : List PaneMoment → Prop
  | [] => True
  | m :: later => (m.CutsOff → ∃ mend ∈ later, mend.Settles) ∧ Mended later

end PaneMoment

namespace CodePane

/-- The steps of a run, each with the pane that it is performed on. -/
def trace (p : CodePane) : List PaneStep → List PaneMoment
  | [] => []
  | step :: steps => ⟨p, step⟩ :: (p.perform step).trace steps

/-- The cursor is on a line of the text, or on line 1 of an empty text. -/
def CursorInText (p : CodePane) : Prop :=
  p.cursor.line ≤ max 1 p.lineCount

theorem of_displays {p : CodePane} {line : Nat} (h : p.displays line = true) :
    1 ≤ line ∧ line ≤ p.lineCount := by
  rw [displays, Bool.and_eq_true, Bool.and_eq_true, decide_eq_true_eq, decide_eq_true_eq] at h
  exact ⟨h.1.2, h.2⟩

theorem one_le_line_perform {p : CodePane} (h : 1 ≤ p.cursor.line) (step : PaneStep) :
    1 ≤ (p.perform step).cursor.line := by
  cases step with
  | replaceText text => exact one_le_nearestLine _ _
  | jump j => exact p.one_le_nearestLine j.line
  | click line =>
      rw [perform]
      split
      · rename_i h_displays
        exact (of_displays h_displays).1
      · exact h
  | edit text =>
      rw [perform]
      split
      · exact h
      · exact h
  | draw =>
      rw [perform, draw]
      split
      · exact h
      · exact h
  | save written =>
      rw [perform, saved]
      split
      · exact h
      · exact h
  | _ => exact h

theorem one_le_line_run {p : CodePane} (h : 1 ≤ p.cursor.line) (steps : List PaneStep) :
    1 ≤ (p.run steps).cursor.line := by
  induction steps generalizing p with
  | nil => exact h
  | cons step steps ih => exact ih (one_le_line_perform h step)

/-! ## In the text -/

variable {p : CodePane} {step : PaneStep}

theorem cursorInText_of_settles (h : PaneMoment.Settles ⟨p, step⟩) :
    (p.perform step).CursorInText := by
  cases step with
  | replaceText text => exact nearestLine_le _ _
  | jump j => exact p.nearestLine_le j.line
  | click line =>
      have h_displays : p.displays line = true := h
      rw [perform, if_pos h_displays]
      exact Nat.le_trans (of_displays h_displays).2 (Nat.le_max_right _ _)
  | edit text =>
      rw [perform, if_pos h.1]
      exact h.2
  | _ => exact h.elim

theorem not_cursorInText_of_cutsOff (h : PaneMoment.CutsOff ⟨p, step⟩) :
    ¬ (p.perform step).CursorInText := by
  cases step with
  | edit text =>
      rw [perform, if_pos h.1]
      exact Nat.not_le.2 h.2
  | _ => exact h.elim

/-- All other steps leave the cursor and the lines alone. -/
theorem perform_of_not_settles (h_cut : ¬ PaneMoment.CutsOff ⟨p, step⟩)
    (h_settle : ¬ PaneMoment.Settles ⟨p, step⟩) :
    (p.perform step).cursor = p.cursor ∧ (p.perform step).lines = p.lines := by
  cases step with
  | replaceText text => exact absurd trivial h_settle
  | jump j => exact absurd trivial h_settle
  | click line =>
      have h_hidden : ¬ p.displays line = true := h_settle
      rw [perform, if_neg h_hidden]
      exact ⟨rfl, rfl⟩
  | edit text =>
      have h_not : ¬ p.editing = true := by
        intro h_editing
        rcases Nat.lt_or_ge (max 1 (linesOf text).length) p.cursor.line with hlt | hge
        · exact h_cut ⟨h_editing, hlt⟩
        · exact h_settle ⟨h_editing, hge⟩
      rw [perform, if_neg h_not]
      exact ⟨rfl, rfl⟩
  | draw =>
      rw [perform, draw]
      split
      · exact ⟨rfl, rfl⟩
      · exact ⟨rfl, rfl⟩
  | save written =>
      rw [perform, saved]
      split
      · exact ⟨rfl, rfl⟩
      · exact ⟨rfl, rfl⟩
  | _ => exact ⟨rfl, rfl⟩

/-- A step leaves the cursor in the text if it settles it there, or finds it there and does
not cut the text off. -/
theorem cursorInText_perform_iff :
    (p.perform step).CursorInText ↔
      PaneMoment.Settles ⟨p, step⟩ ∨ ¬ PaneMoment.CutsOff ⟨p, step⟩ ∧ p.CursorInText := by
  by_cases h_settle : PaneMoment.Settles ⟨p, step⟩
  · exact iff_of_true (cursorInText_of_settles h_settle) (.inl h_settle)
  · rw [or_iff_right h_settle]
    by_cases h_cut : PaneMoment.CutsOff ⟨p, step⟩
    · exact iff_of_false (not_cursorInText_of_cutsOff h_cut) fun h => h.1 h_cut
    · obtain ⟨h_cursor, h_lines⟩ := perform_of_not_settles h_cut h_settle
      rw [and_iff_right h_cut, CursorInText, CursorInText, lineCount, lineCount, h_cursor, h_lines]

/-- The cursor ends in the text if it was there or a step settled it, and every cut was mended. -/
theorem cursorInText_run_iff (p : CodePane) (steps : List PaneStep) :
    (p.run steps).CursorInText ↔
      (p.CursorInText ∨ ∃ m ∈ p.trace steps, m.Settles) ∧ PaneMoment.Mended (p.trace steps) := by
  induction steps generalizing p with
  | nil => simp [run, trace, PaneMoment.Mended]
  | cons step steps ih =>
      have h_run : (p.run (step :: steps)).CursorInText ↔
          ((p.perform step).run steps).CursorInText := Iff.rfl
      have h_both : PaneMoment.Settles ⟨p, step⟩ → ¬ PaneMoment.CutsOff ⟨p, step⟩ :=
        fun h_settle h_cut => not_cursorInText_of_cutsOff h_cut (cursorInText_of_settles h_settle)
      rw [h_run, ih, cursorInText_perform_iff, trace, List.exists_mem_cons_iff, PaneMoment.Mended]
      by_cases h_later : ∃ m ∈ (p.perform step).trace steps, m.Settles
      · -- the cursor is settled later, whatever the first step does
        simp [h_later]
      · by_cases h_settle : PaneMoment.Settles ⟨p, step⟩
        · simp [h_later, h_settle, h_both h_settle]
        · simp [h_later, h_settle, and_assoc, and_left_comm]

end CodePane

/-- Whatever happens to a pane, its lines are those of its text and its cursor is on line 1 or
behind. It is on no line behind the last exactly if every edit that left too few lines for it
was mended later. -/
theorem CodePane.cursor_run (steps : List PaneStep) :
    let p : CodePane := CodePane.run {} steps
    p.lines = linesOf p.text ∧ 1 ≤ p.cursor.line ∧
      (p.cursor.line ≤ max 1 p.lineCount ↔ PaneMoment.Mended (CodePane.trace {} steps)) := by
  have h_start : CodePane.CursorInText {} := Nat.le_refl 1
  refine ⟨settled_run settled_default steps, one_le_line_run (Nat.le_refl 1) steps, ?_⟩
  exact (cursorInText_run_iff {} steps).trans (and_iff_right (.inl h_start))

/-- The second of two lines is deleted with the cursor on it, and the cursor stays. -/
theorem CodePane.cursor_run_after_cut :
    let p : CodePane := CodePane.run {}
      [.replaceText "a\nb", .click 2, .setEditMode true, .edit "a"]
    max 1 p.lineCount < p.cursor.line := by
  decide +kernel

end Showcase
