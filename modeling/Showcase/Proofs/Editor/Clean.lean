import Mathlib.Data.List.DropRight
import Showcase.Proofs.Editor.Cursor

/-!
# What a clean pane shows

The text of a pane is settled when the pane is given it, and when it is written. From then on
it is changed by edits alone, and an edit leaves the pane dirty until the text is settled
again. So a pane is dirty exactly if it was edited since, and a clean pane shows the text that
was settled last.
-/

namespace Showcase

/-- Whether a step settles the text of the pane: it replaces the text, or the text is written. -/
def PaneStep.settlesText : PaneStep → Bool
  | replaceText _ => true
  | save written => written
  | _ => false

namespace PaneMoment

/-- The text that a step settles. -/
def settled? (m : PaneMoment) : Option String :=
  match m.step with
  | .replaceText text => some text
  | .save true => some m.before.text
  | _ => none

/-- Whether the user changes the text, which takes edit mode. -/
def edits (m : PaneMoment) : Bool :=
  match m.step with
  | .edit _ => m.before.editing
  | _ => false

/-- The text that was settled last, which is empty at the start. -/
def lastSettled (moments : List PaneMoment) : String :=
  (moments.filterMap settled?).getLast?.getD ""

/-- What happened since the text was settled last. -/
def sinceSettled (moments : List PaneMoment) : List PaneMoment :=
  moments.rtakeWhile fun m => !m.step.settlesText

theorem isSome_settled? (m : PaneMoment) : m.settled?.isSome = m.step.settlesText := by
  obtain ⟨p, step⟩ := m
  cases step with
  | save written =>
      cases written with
      | _ => rfl
  | _ => rfl

theorem edits_of_settlesText {m : PaneMoment} (h : m.step.settlesText = true) :
    m.edits = false := by
  obtain ⟨p, step⟩ := m
  cases step with
  | edit text => cases h
  | _ => rfl

theorem lastSettled_concat (moments : List PaneMoment) (m : PaneMoment) :
    lastSettled (moments ++ [m]) = m.settled?.getD (lastSettled moments) := by
  rw [lastSettled, List.filterMap_append, lastSettled]
  cases h : m.settled? with
  | none => simp [h]
  | some text => simp [h]

end PaneMoment

open PaneMoment (lastSettled sinceSettled)

namespace CodePane

theorem run_concat (p : CodePane) (steps : List PaneStep) (last : PaneStep) :
    p.run (steps ++ [last]) = (p.run steps).perform last := by
  rw [run, List.foldl_concat]
  rfl

theorem trace_concat (p : CodePane) (steps : List PaneStep) (last : PaneStep) :
    p.trace (steps ++ [last]) = p.trace steps ++ [⟨p.run steps, last⟩] := by
  induction steps generalizing p with
  | nil => rfl
  | cons step steps ih =>
      rw [List.cons_append, trace, ih]
      rfl

theorem dirty_perform (p : CodePane) (step : PaneStep) :
    (p.perform step).dirty =
      (!step.settlesText && (p.dirty || PaneMoment.edits ⟨p, step⟩)) := by
  cases step with
  | replaceText text => rfl
  | edit text =>
      rw [perform]
      split
      · rename_i h
        simp [edit, PaneStep.settlesText, PaneMoment.edits, h]
      · rename_i h
        simp [PaneStep.settlesText, PaneMoment.edits, h]
  | click line =>
      rw [perform]
      split
      · simp [click, PaneStep.settlesText, PaneMoment.edits]
      · simp [PaneStep.settlesText, PaneMoment.edits]
  | draw =>
      rw [perform, draw]
      split
      · simp [PaneStep.settlesText, PaneMoment.edits]
      · simp [PaneStep.settlesText, PaneMoment.edits]
  | save written =>
      cases written with
      | true => rfl
      | false => simp [perform, saved, PaneStep.settlesText, PaneMoment.edits]
  | _ => simp [perform, jump, highlight, setEditMode, PaneStep.settlesText, PaneMoment.edits]

/-- Only an edit changes the text without settling it. -/
theorem text_perform_of_not_edits {p : CodePane} {step : PaneStep}
    (h : PaneMoment.edits ⟨p, step⟩ = false) :
    (p.perform step).text = (PaneMoment.settled? ⟨p, step⟩).getD p.text := by
  cases step with
  | edit text =>
      have h_not : p.editing = false := h
      rw [perform, h_not]
      rfl
  | click line =>
      rw [perform]
      split
      · rfl
      · rfl
  | draw =>
      rw [perform, draw]
      split
      · rfl
      · rfl
  | save written =>
      cases written with
      | _ => rfl
  | _ => rfl

/-- A pane is dirty if it was edited since its text was settled last. -/
theorem dirty_run (steps : List PaneStep) :
    (CodePane.run {} steps).dirty =
      (sinceSettled (CodePane.trace {} steps)).any PaneMoment.edits := by
  induction steps using List.reverseRecOn with
  | nil => rfl
  | append_singleton steps last ih =>
      rw [run_concat, dirty_perform, trace_concat, sinceSettled, List.rtakeWhile_concat, ih]
      cases last.settlesText with
      | true => simp
      | false => simp [sinceSettled]

/-- A clean pane shows the text that was settled last. -/
theorem text_run_of_clean {steps : List PaneStep} (h : (CodePane.run {} steps).dirty = false) :
    (CodePane.run {} steps).text = lastSettled (CodePane.trace {} steps) := by
  induction steps using List.reverseRecOn with
  | nil => rfl
  | append_singleton steps last ih =>
      rw [run_concat, dirty_perform] at h
      rw [run_concat, trace_concat, PaneMoment.lastSettled_concat]
      cases h_step : last.settlesText with
      | true =>
          have h_some : (PaneMoment.settled? ⟨CodePane.run {} steps, last⟩).isSome = true :=
            (PaneMoment.isSome_settled? _).trans h_step
          obtain ⟨text, h_text⟩ := Option.isSome_iff_exists.1 h_some
          rw [text_perform_of_not_edits (PaneMoment.edits_of_settlesText h_step), h_text]
          rfl
      | false =>
          rw [h_step, Bool.not_false, Bool.true_and, Bool.or_eq_false_iff] at h
          rw [text_perform_of_not_edits h.2, ih h.1]

end CodePane

end Showcase
