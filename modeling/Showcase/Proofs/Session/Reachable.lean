import Showcase.Proofs.Editor.Landing
import Showcase.Proofs.Outline.Nesting
import Showcase.Session.Step

/-!
# What sessions come to

A session starts over a text, then steps are performed and the user does things to the
editor, in any order. What it is about never changes: its source, the outline of the source
and its options. So in every reachable session the source is the scan of the text it was
started with, the outline is that of its tags, and the editor is settled.
-/

namespace Showcase

namespace Session

variable {ε : Type}

/-- What a session is about. -/
def subject (s : Session ε) : TaggedSource × Outline × Options :=
  (s.source, s.outline, s.options)

variable [Editor ε]

theorem ofText_eq_ok {text : String} {editor : ε} {options : Options} {s : Session ε}
    (h : ofText text editor options = .ok s) :
    ∃ marker, Marker.ofText options.marker = .ok marker ∧
      s = start (TaggedSource.parse marker text) editor options := by
  rw [ofText] at h
  cases hcheck : options.check with
  | error e =>
      rw [hcheck] at h
      cases h
  | ok u =>
      cases hmarker : Marker.ofText options.marker with
      | error e =>
          rw [hcheck, hmarker] at h
          cases h
      | ok marker =>
          rw [hcheck, hmarker] at h
          cases h
          exact ⟨marker, rfl, rfl⟩

/-! ## What steps leave alone -/

@[simp] theorem subject_goTo (s : Session ε) (line : Nat) :
    (s.goTo line).subject = s.subject := rfl

omit [Editor ε] in
@[simp] theorem subject_selectAround (s : Session ε) (line : Nat) :
    (s.selectAround line).subject = s.subject := by
  rw [selectAround]
  split
  · rfl
  · rfl

@[simp] theorem subject_activate (s : Session ε) (site : SectionSite) :
    (s.activate site).subject = s.subject := by
  rw [activate, subject_selectAround, subject_goTo]
  rfl

omit [Editor ε] in
@[simp] theorem subject_hover (s : Session ε) (site : SectionSite) :
    (s.hover site).subject = s.subject := by
  rw [hover]
  split
  · rw [subject_selectAround]
    rfl
  · rfl

@[simp] theorem subject_handle (s : Session ε) (event : SectionEvent) :
    (s.handle event).subject = s.subject := by
  cases event with
  | hover site => exact s.subject_hover site
  | activate site => exact s.subject_activate site

@[simp] theorem subject_select (s : Session ε) (id : NodeId) :
    (s.select id).subject = s.subject := by
  rw [select]
  split
  · rfl
  · rfl

@[simp] theorem subject_followCursor (s : Session ε) :
    s.followCursor.subject = s.subject := by
  rw [followCursor]
  split
  · rfl
  · rfl

theorem subject_perform (s : Session ε) (step : SessionStep) :
    (s.perform step).2.subject = s.subject := by
  cases step with
  | event event => exact s.subject_handle event
  | select id => exact s.subject_select id
  | selectPath path =>
      rw [perform]
      split
      · exact s.subject_select _
      · rfl
  | followCursor => exact s.subject_followCursor
  | _ => rfl

/-! ## Choosing an entry -/

theorem select_of_some {s : Session ε} {id : NodeId} {node : OutlineNode}
    (h : s.outline.get? id = some node) :
    s.select id = { s.goTo node.line with selection := some id } := by
  rw [select, h]

theorem select_of_none {s : Session ε} {id : NodeId} (h : s.outline.get? id = none) :
    s.select id = s := by
  rw [select, h]

theorem perform_selectPath_of_some {s : Session ε} {path : String} {id : NodeId}
    (h : s.outline.find? path = some id) :
    s.perform (.selectPath path) = (.node (some id), s.select id) := by
  rw [perform, h]

theorem perform_selectPath_of_none {s : Session ε} {path : String}
    (h : s.outline.find? path = none) : s.perform (.selectPath path) = (.node none, s) := by
  rw [perform, h]

/-! ## Settled editors -/

variable [LandingEditor ε]

open LandingEditor (Settled)

theorem settled_goTo {s : Session ε} (h : Settled s.editor) (line : Nat) :
    Settled (s.goTo line).editor :=
  LandingEditor.settled_jump s.editor _ h

theorem settled_activate {s : Session ε} (h : Settled s.editor) (site : SectionSite) :
    Settled (s.activate site).editor := by
  rw [activate, editor_selectAround]
  exact settled_goTo h site.line

theorem settled_select {s : Session ε} (h : Settled s.editor) (id : NodeId) :
    Settled (s.select id).editor := by
  rw [select]
  split
  · exact settled_goTo h _
  · exact h

theorem settled_perform {s : Session ε} (h : Settled s.editor) (step : SessionStep) :
    Settled (s.perform step).2.editor := by
  cases step with
  | event event =>
      cases event with
      | hover site =>
          show Settled (s.hover site).editor
          rw [editor_hover]
          exact h
      | activate site => exact settled_activate h site
  | select id => exact settled_select h id
  | selectPath path =>
      rw [perform]
      split
      · exact settled_select h _
      · exact h
  | followCursor =>
      show Settled s.followCursor.editor
      rw [followCursor]
      split
      · exact h
      · exact h
  | place position => exact LandingEditor.settled_place s.editor position h
  | replaceText text => exact LandingEditor.settled_replaceText s.editor text
  | _ => exact h

/-! ## Reachable sessions -/

/-- The sessions that come of a session started over a text. The user may leave the editor
in any settled state. -/
inductive Reachable (text : String) (editor : ε) (options : Options) : Session ε → Prop
  | start {s : Session ε} (h : ofText text editor options = .ok s) :
      Reachable text editor options s
  | perform {s : Session ε} (h : Reachable text editor options s) (step : SessionStep) :
      Reachable text editor options (s.perform step).2
  | use {s : Session ε} (h : Reachable text editor options s) {e : ε} (he : Settled e) :
      Reachable text editor options { s with editor := e }

variable {text : String} {editor : ε} {options : Options} {s : Session ε}

/-- A reachable session is still about the text that it was started with. -/
theorem Reachable.exists_subject_eq (h : Reachable text editor options s) :
    ∃ marker, Marker.ofText options.marker = .ok marker ∧
      s.subject = (TaggedSource.parse marker text,
        Outline.ofTags (TaggedSource.parse marker text).tags options.pathDelimiter, options) := by
  induction h with
  | start h =>
      obtain ⟨marker, hmarker, rfl⟩ := ofText_eq_ok h
      exact ⟨marker, hmarker, rfl⟩
  | perform _ step ih =>
      rw [subject_perform]
      exact ih
  | use _ _ ih => exact ih

theorem Reachable.settled (h : Reachable text editor options s) : Settled s.editor := by
  induction h with
  | start h =>
      obtain ⟨marker, -, rfl⟩ := ofText_eq_ok h
      exact LandingEditor.settled_replaceText editor _
  | perform _ step ih => exact settled_perform ih step
  | use _ he _ => exact he

end Session

end Showcase
