import Showcase.Proofs.Outline.Occurrence
import Showcase.Proofs.Outline.Rows
import Showcase.Proofs.Session.Reachable
import Showcase.Proofs.Source.Scan

/-!
# Where an activation leads

An activation sends the cursor to its line and presents the section around that line: it is
selected and revealed. When the line is that of a tag which has it to itself, the section
is the one made for this tag, and the cursor is at the start of the line, because tags stand
on lines of the text and the text is still in the editor.
-/

namespace Showcase

open Catalogue (addressOf named)

namespace Session

variable {ε : Type}

/-- What a session does with a section that it presents: the section is selected, everything
around it is expanded, the outline is to scroll to it, and unless a filter hides it, it is
listed. -/
structure Presents (s : Session ε) (id : NodeId) : Prop where
  selection : s.selection = some id
  expanded : ∀ a, s.outline.Encloses a id → a ∈ s.view.expanded
  scrollTarget : s.view.scrollTarget = some id
  listed : s.view.hasFilter = false → id ∈ (s.view.rows s.outline.toSections).map (·.id)

theorem presents_selectAround {s : Session ε} (hs : s.outline.Linked) {line : Nat}
    {id : NodeId} (h : s.outline.enclosing? line = some id) (hid : id.index < s.outline.size) :
    (s.selectAround line).Presents id := by
  have h_eq : s.selectAround line =
      { s with selection := some id, view := s.view.reveal s.outline.toSections id } := by
    rw [selectAround, h]
  have h_expanded : ∀ a, s.outline.Encloses a id →
      a ∈ (s.view.reveal s.outline.toSections id).expanded := by
    intro a ha
    rw [OutlineView.mem_expanded_reveal]
    exact .inl ((Sections.mem_ancestors_iff hs).2 ha)
  rw [h_eq]
  refine ⟨rfl, h_expanded, rfl, ?_⟩
  intro h_filter
  refine (OutlineView.mem_map_id_rows hs).2 ⟨hid, .inl h_filter, ?_⟩
  intro a ha
  exact .inl (h_expanded a ha)

end Session

variable {ε : Type} [Editor ε] [LandingEditor ε]

/-- Activating the line of a tag that has a segment, and the line to itself, puts the cursor
at the start of this line and presents the section made for this very tag. -/
theorem Session.activate_lands {text : String} {editor : ε} {options : Options}
    {s : Session ε} (hs : s.Reachable text editor options) (htext : Editor.text s.editor = text)
    {before after : List Tag} {tag : Tag} (htags : s.source.tags = before ++ tag :: after)
    (hnamed : addressOf options.pathDelimiter tag ≠ [])
    (honly : ∀ other ∈ before ++ after, other.line = tag.line →
      addressOf options.pathDelimiter other = [])
    (site : SectionSite) (hsite : site.line = tag.line) :
    Editor.cursor (s.handle (.activate site)).editor = ⟨tag.line, 0⟩ ∧
      ∃ id node, (s.handle (.activate site)).Presents id ∧
        s.outline.get? id = some node ∧
        s.outline.tagNodes[(named options.pathDelimiter before).length]? = some node ∧
        node.origin ≠ .synthetic ∧ node.line = tag.line ∧
        node.path = String.ofList
          (Text.joinWith options.pathDelimiter (addressOf options.pathDelimiter tag)) := by
  obtain ⟨marker, -, hsubject⟩ := hs.exists_subject_eq
  obtain ⟨hsource, houtline, hoptions⟩ : s.source = TaggedSource.parse marker text ∧
      s.outline = Outline.ofTags (TaggedSource.parse marker text).tags options.pathDelimiter ∧
      s.options = options := by
    simpa [subject] using hsubject
  rw [← hsource, htags] at houtline
  constructor
  · have hmem : tag ∈ (TaggedSource.parse marker text).tags := by
      rw [← hsource, htags]
      exact List.mem_append_right before List.mem_cons_self
    obtain ⟨hpos, hle⟩ := TaggedSource.line_of_mem_tags_parse hmem
    have hcursor := LandingEditor.cursor_jump s.editor
      (Jump.lineStart tag.line s.options.contextLines.toNat) hs.settled hpos
      (by rw [htext]; exact hle)
    show Editor.cursor (s.activate site).editor = _
    rw [activate, editor_selectAround, hsite]
    exact hcursor
  · obtain ⟨id, node, hid, hget, hnode⟩ := Outline.exists_enclosing?_ofTags hnamed honly
    rw [← houtline] at hid hget hnode
    have hlinked : s.outline.Linked := by
      rw [houtline]
      exact Sections.linked_ofTags _ _
    have hlt : id.index < s.outline.size := (Array.getElem?_eq_some_iff.1 hget).1
    refine ⟨id, node, ?_, hget, hnode⟩
    show (s.activate site).Presents id
    rw [activate, hsite]
    apply presents_selectAround
    · exact hlinked
    · exact hid
    · exact hlt

/-- In a code pane whose cursor stood on the first line, the second line is activated. -/
theorem Session.activate_lands_second_line :
    ∃ s : Session CodePane,
      s.Reachable "M(\"A\");\nM(\"A/B\");\n" {} { marker := "M" } ∧
        Editor.cursor (s.handle (.activate ⟨"demo", 2, "A/B"⟩)).editor = ⟨2, 0⟩ ∧
        ∃ id, (s.handle (.activate ⟨"demo", 2, "A/B"⟩)).Presents id ∧
          ∃ node, s.outline.get? id = some node ∧ node.line = 2 ∧ node.path = "A/B" := by
  have hstart : Session.Reachable "M(\"A\");\nM(\"A/B\");\n" ({} : CodePane) { marker := "M" }
      (Session.start (TaggedSource.parse ⟨"M", by decide⟩ "M(\"A\");\nM(\"A/B\");\n") {}
        { marker := "M" }) := .start rfl
  have hs := hstart.perform (.place ⟨1, 4⟩)
  have htags : (TaggedSource.parse ⟨"M", by decide⟩ "M(\"A\");\nM(\"A/B\");\n").tags =
      [⟨1, "A"⟩] ++ ⟨2, "A/B"⟩ :: [] := by decide +kernel
  obtain ⟨hcursor, id, node, hpresents, hget, -, -, hline, hpath⟩ :=
    Session.activate_lands hs rfl htags (by decide) (by decide) ⟨"demo", 2, "A/B"⟩ rfl
  exact ⟨_, hs, hcursor, id, hpresents, node, hget, hline, hpath⟩

end Showcase
