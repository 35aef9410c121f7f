import Showcase.Editor.CodePane

/-!
# Editors that land on their lines

A session asks an editor to jump to a line and relies on the cursor being there afterwards.
An obedient editor goes wherever it is sent. The code pane goes to the nearest line that
there is, so it relies on its lines being those of its text; a pane that was given a text
is in such a state, and everything that can happen to it keeps it there.
-/

namespace Showcase

/-- An editor that goes wherever it is sent. -/
class ObedientEditor (ε : Type) [Editor ε] : Prop where
  cursor_jump : ∀ (e : ε) (j : Jump), Editor.cursor (Editor.jump e j) = j.position

/-- An editor that goes to every line of its text that it is sent to. `Settled` describes the
states that it can be in once it was given a text. -/
class LandingEditor (ε : Type) [Editor ε] where
  Settled : ε → Prop
  settled_replaceText : ∀ (e : ε) (text : String), Settled (Editor.replaceText e text)
  settled_jump : ∀ (e : ε) (j : Jump), Settled e → Settled (Editor.jump e j)
  settled_place : ∀ (e : ε) (p : Position), Settled e → Settled (Editor.place e p)
  cursor_jump : ∀ (e : ε) (j : Jump), Settled e → 1 ≤ j.line →
    j.line ≤ (Text.lines (Editor.text e).toList).length →
      Editor.cursor (Editor.jump e j) = j.position

instance : ObedientEditor Notepad where
  cursor_jump _ _ := rfl

/-- An obedient editor lands on every line, in whatever state it is. -/
instance (priority := low) {ε : Type} [Editor ε] [ObedientEditor ε] : LandingEditor ε where
  Settled _ := True
  settled_replaceText _ _ := trivial
  settled_jump _ _ _ := trivial
  settled_place _ _ _ := trivial
  cursor_jump e j _ _ _ := ObedientEditor.cursor_jump e j

namespace CodePane

/-- The lines of a pane are those of its text. -/
def Settled (p : CodePane) : Prop :=
  p.lines = linesOf p.text

theorem settled_default : Settled {} := rfl

theorem settled_perform {p : CodePane} (h : p.Settled) (step : PaneStep) :
    (p.perform step).Settled := by
  cases step with
  | replaceText text => rfl
  | jump j => exact h
  | highlight lines => exact h
  | setEditMode editing => exact h
  | edit text =>
      rw [perform]
      split
      · rfl
      · exact h
  | click line =>
      rw [perform]
      split
      · exact h
      · exact h
  | draw =>
      rw [perform, draw]
      split
      · exact h
      · exact h
  | save written =>
      rw [perform, saved]
      split
      · exact h
      · exact h

/-- Whatever happens to a pane, its lines stay those of its text. -/
theorem settled_run {p : CodePane} (h : p.Settled) (steps : List PaneStep) :
    (p.run steps).Settled := by
  induction steps generalizing p with
  | nil => exact h
  | cons step steps ih => exact ih (settled_perform h step)

theorem Settled.lineCount_eq {p : CodePane} (h : p.Settled) :
    p.lineCount = (Text.lines p.text.toList).length := by
  rw [lineCount, h, linesOf, List.length_map]

instance : LandingEditor CodePane where
  Settled := Settled
  settled_replaceText _ _ := rfl
  settled_jump _ _ h := h
  settled_place _ _ h := h
  cursor_jump p j h hline hle := by
    have h_nearest : p.nearestLine j.line = j.line :=
      nearestLine_eq_self hline (by rw [h.lineCount_eq]; exact hle)
    show (⟨p.nearestLine j.line, j.column⟩ : Position) = j.position
    rw [h_nearest]
    rfl

end CodePane

end Showcase
