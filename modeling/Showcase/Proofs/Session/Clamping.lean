import Showcase.Proofs.Outline.Occurrence
import Showcase.Proofs.Session.Frame
import Showcase.Proofs.Source.Scan

/-!
# Activations behind the text

An activation may name a line far behind the text. A code pane then puts the cursor on the last
line there is, while the section that is selected is looked up by the line that was named. Both
come to the same, because every section starts on a line of the text.
-/

namespace Showcase

namespace Session

variable {text : String} {options : Options}

/-- The sections of a reachable session start on lines of the text it was started with, so what
is behind the last of them is in the section that the last line is in. -/
theorem Reachable.enclosing?_min {ε : Type} [Editor ε] [LandingEditor ε] {editor : ε}
    {s : Session ε} (hs : s.Reachable text editor options) (line : Nat) {last : Nat}
    (hlast : (Text.lines text.toList).length ≤ last) :
    s.outline.enclosing? (min line last) = s.outline.enclosing? line := by
  obtain ⟨marker, -, h_subject⟩ := hs.exists_subject_eq
  have h_outline :
      s.outline = Outline.ofTags (TaggedSource.parse marker text).tags options.pathDelimiter :=
    congrArg (·.2.1) h_subject
  rw [h_outline]
  refine Sections.enclosing?_min line fun id n hn => ?_
  obtain ⟨tag, h_tag, h_line⟩ := Catalogue.exists_line_eq_of_get?_ofTags hn
  obtain ⟨-, h_le⟩ := TaggedSource.line_of_mem_tags_parse h_tag
  rw [TaggedSource.lineCount, TaggedSource.text_parse] at h_le
  rw [h_line]
  exact Nat.le_trans h_le hlast

/-- A code pane that shows the text of its session goes to the line it is sent to, or to the
last line. -/
theorem cursorLine_activate {s : Session CodePane} {site : SectionSite}
    (hs : s.Reachable text ({} : CodePane) options) (htext : s.editor.text = text)
    (hline : 1 ≤ site.line) :
    (s.activate site).cursorLine =
      min site.line (max 1 (Text.lines text.toList).length) := by
  have h_settled : s.editor.Settled := hs.settled
  have h_cursor : (s.activate site).cursorLine = s.editor.nearestLine site.line := by
    rw [cursorLine, editor_activate]
    rfl
  rw [h_cursor, CodePane.nearestLine, h_settled.lineCount_eq, htext, Nat.max_eq_right]
  exact Nat.le_min.2 ⟨hline, Nat.le_max_left _ _⟩

end Session

/-- Wherever an activation leads, even behind the text, the cursor of a code pane comes to
rest on the nearest line of the text, and what is selected is the section around the line of
the cursor. -/
theorem Session.selection_activate_clamped {text : String} {options : Options}
    {s : Session CodePane} (hs : s.Reachable text ({} : CodePane) options)
    (htext : s.editor.text = text) {site : SectionSite} (hline : 1 ≤ site.line) :
    let t := s.handle (.activate site)
    t.cursorLine = min site.line (max 1 (Text.lines text.toList).length) ∧
      t.selection = s.outline.enclosing? site.line ∧
      t.selection = t.outline.enclosing? t.cursorLine := by
  have h_cursor : (s.handle (.activate site)).cursorLine = _ :=
    cursorLine_activate hs htext hline
  obtain ⟨view, h_eq⟩ := s.exists_activate_eq site
  have h_selection : (s.handle (.activate site)).selection = s.outline.enclosing? site.line := by
    rw [handle, h_eq]
  have h_outline : (s.handle (.activate site)).outline = s.outline := by
    rw [handle, h_eq]
  refine ⟨h_cursor, h_selection, ?_⟩
  rw [h_selection, h_outline, h_cursor]
  exact (hs.enclosing?_min site.line (Nat.le_max_right _ _)).symm

/-- A text of two lines is left behind by an activation of line 99: the cursor is on its last
line, in the section that is selected. -/
theorem Session.selection_activate_clamped_line_99 :
    ∃ s : Session CodePane,
      s.Reachable "M(\"A\");\nM(\"A/B\")" {} { marker := "M" } ∧
        s.editor.text = "M(\"A\");\nM(\"A/B\")" ∧ 1 ≤ 99 ∧
        ∃ t, t = s.handle (.activate ⟨"demo", 99, "A/B"⟩) ∧ t.cursorLine = 2 ∧
          t.selection = t.outline.enclosing? 2 := by
  have hs : Session.Reachable "M(\"A\");\nM(\"A/B\")" ({} : CodePane) { marker := "M" }
      (Session.start (TaggedSource.parse ⟨"M", by decide⟩ "M(\"A\");\nM(\"A/B\")") {}
        { marker := "M" }) := .start rfl
  have hline : 1 ≤ (⟨"demo", 99, "A/B"⟩ : SectionSite).line := by decide
  obtain ⟨hcursor, -, hselection⟩ := Session.selection_activate_clamped hs rfl hline
  have hlast : min 99 (max 1 (Text.lines "M(\"A\");\nM(\"A/B\")".toList).length) = 2 := by
    decide +kernel
  rw [hcursor] at hselection
  rw [hlast] at hcursor hselection
  exact ⟨_, hs, rfl, by decide, _, rfl, hcursor, hselection⟩

end Showcase
