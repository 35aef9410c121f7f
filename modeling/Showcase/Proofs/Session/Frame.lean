import Showcase.Proofs.Session.Reachable

/-!
# The events of one frame

`s.frame events` is what a session becomes when a frame begins and `events` arrive in it.
`Decided s sites t` says what the activations of `sites`, and they alone, have decided in
`t` since the frame of `s` began: the jumps of the editor, and after the last of them what is
selected and which line counts as followed. A hover decides nothing that an activation does
not overwrite, and after an activation it does nothing at all. So two frames with the same
activations agree, whatever is hovered in between.
-/

namespace Showcase

namespace SectionEvent

/-- The place that an event activates. -/
def activated? : SectionEvent → Option SectionSite
  | activate site => some site
  | hover _ => none

/-- The places that events activate, in order. -/
def activations (events : List SectionEvent) : List SectionSite :=
  events.filterMap activated?

/-- Leaving out the hovers leaves out no activation. -/
theorem activations_filter_not_isHover (events : List SectionEvent) :
    activations (events.filter fun e => !e.isHover) = activations events := by
  unfold activations
  rw [List.filterMap_filter]
  apply List.filterMap_congr
  intro e _
  cases e with
  | hover site => rfl
  | activate site => rfl

end SectionEvent

open SectionEvent (activations)

namespace Session

variable {ε : Type}

/-- The jump to the line of a section. -/
def jumpTo (s : Session ε) (site : SectionSite) : Jump :=
  Jump.lineStart site.line s.options.contextLines.toNat

/-- Presenting the section around a line selects it and touches nothing but the view. -/
theorem exists_selectAround_eq (s : Session ε) (line : Nat) :
    ∃ view, s.selectAround line = { s with selection := s.outline.enclosing? line, view } := by
  rw [selectAround]
  split
  · rename_i id h
    exact ⟨s.view.reveal s.outline.toSections id, by rw [h]⟩
  · rename_i h
    exact ⟨s.view, by rw [h]⟩

/-- A hover is ignored, or it selects the section around its line and follows the line. -/
theorem hover_cases (s : Session ε) (site : SectionSite) :
    s.hover site = s ∨ s.activated = false ∧ ∃ view, s.hover site =
      { s with
        follow := { s.follow with lastLine := some site.line }
        selection := s.outline.enclosing? site.line
        view } := by
  rw [hover]
  split
  · rename_i h
    have h_activated : s.activated = false := by
      simp only [follows, Bool.and_eq_true, Bool.not_eq_true'] at h
      exact h.1.2
    exact .inr ⟨h_activated, exists_selectAround_eq _ site.line⟩
  · exact .inl rfl

variable [Editor ε]

/-- An activation makes the editor jump, selects the section around its line and counts as
followed. -/
theorem exists_activate_eq (s : Session ε) (site : SectionSite) :
    ∃ view, s.activate site =
      { s with
        activated := true
        focusRequested := true
        follow := { s.follow with lastLine := some site.line }
        editor := Editor.jump s.editor (s.jumpTo site)
        knownLine := (Editor.cursor (Editor.jump s.editor (s.jumpTo site))).line
        selection := s.outline.enclosing? site.line
        view } := by
  rw [activate]
  exact exists_selectAround_eq _ site.line

theorem editor_activate (s : Session ε) (site : SectionSite) :
    (s.activate site).editor = Editor.jump s.editor (s.jumpTo site) := by
  rw [activate, editor_selectAround]
  rfl

/-- What a frame with the given events makes of a session. -/
def frame (s : Session ε) (events : List SectionEvent) : Session ε :=
  s.run (.beginFrame :: events.map .event)

theorem frame_eq_foldl (s : Session ε) (events : List SectionEvent) :
    s.frame events = events.foldl handle s.beginFrame := by
  rw [frame, run, List.foldl_cons, List.foldl_map]
  rfl

/-- What the activations of `sites` have decided in `t` since the frame of `s` began. -/
structure Decided (s : Session ε) (sites : List SectionSite) (t : Session ε) : Prop where
  subject : t.subject = s.subject
  editor : t.editor = (sites.map s.jumpTo).foldl Editor.jump s.editor
  enabled : t.follow.enabled = s.follow.enabled
  activated : t.activated = !sites.isEmpty
  selection : ∀ site ∈ sites.getLast?, t.selection = s.outline.enclosing? site.line
  lastLine : ∀ site ∈ sites.getLast?, t.follow.lastLine = some site.line
  focusRequested : sites ≠ [] → t.focusRequested = true
  knownLine : sites ≠ [] → t.knownLine = (Editor.cursor t.editor).line

variable {s t t' : Session ε} {sites : List SectionSite}

theorem decided_beginFrame (s : Session ε) : Decided s [] s.beginFrame where
  subject := rfl
  editor := rfl
  enabled := rfl
  activated := rfl
  selection _ h := by cases h
  lastLine _ h := by cases h
  focusRequested h := absurd rfl h
  knownLine h := absurd rfl h

namespace Decided

/-- A hover comes before all activations, when nothing is decided yet, or is ignored. -/
theorem hover (h : Decided s sites t) (site : SectionSite) : Decided s sites (t.hover site) := by
  rcases t.hover_cases site with h_eq | ⟨h_activated, view, h_eq⟩
  · rw [h_eq]
    exact h
  · obtain rfl : sites = [] := by simpa [h.activated] using h_activated
    rw [h_eq]
    exact { h with
      selection := fun _ h_last => by cases h_last
      lastLine := fun _ h_last => by cases h_last
      focusRequested := fun h_ne => absurd rfl h_ne
      knownLine := fun h_ne => absurd rfl h_ne }

/-- An activation overwrites whatever was decided before, except for the jumps, which add
up. -/
theorem activate (h : Decided s sites t) (site : SectionSite) :
    Decided s (sites ++ [site]) (t.activate site) := by
  obtain ⟨-, h_outline, h_options⟩ : t.source = s.source ∧ t.outline = s.outline ∧
      t.options = s.options := by
    simpa [Session.subject] using h.subject
  have h_jump : t.jumpTo site = s.jumpTo site := by
    rw [jumpTo, h_options, jumpTo]
  have h_last : ∀ other ∈ (sites ++ [site]).getLast?, other = site := by
    intro other h_other
    rw [List.getLast?_concat, Option.mem_some_iff] at h_other
    exact h_other.symm
  obtain ⟨view, h_eq⟩ := t.exists_activate_eq site
  refine ⟨(t.subject_activate site).trans h.subject, ?_, ?_, ?_, ?_, ?_, ?_, ?_⟩
  · rw [h_eq, List.map_append, List.map_singleton, List.foldl_concat, ← h.editor, h_jump]
  · rw [h_eq]
    exact h.enabled
  · rw [h_eq]
    simp
  · intro other h_other
    rw [h_last other h_other, h_eq, h_outline]
  · intro other h_other
    rw [h_last other h_other, h_eq]
  · intro _
    rw [h_eq]
  · intro _
    rw [h_eq]

theorem foldl_handle (h : Decided s sites t) (events : List SectionEvent) :
    Decided s (sites ++ activations events) (events.foldl handle t) := by
  induction events generalizing sites t with
  | nil => simpa [activations] using h
  | cons event events ih =>
      rw [List.foldl_cons]
      cases event with
      | hover site => exact ih (h.hover site)
      | activate site =>
          have h_sites : sites ++ activations (.activate site :: events) =
              (sites ++ [site]) ++ activations events := by
            rw [List.append_assoc]
            rfl
          rw [h_sites]
          exact ih (h.activate site)

/-- Whatever has been decided by the same activations is the same. -/
theorem eq_of_ne_nil (h : Decided s sites t) (h' : Decided s sites t') (hne : sites ≠ []) :
    t.selection = t'.selection ∧ t.follow = t'.follow ∧ t.editor = t'.editor ∧
      t.focusRequested = t'.focusRequested ∧ t.knownLine = t'.knownLine := by
  obtain ⟨last, h_last⟩ := Option.ne_none_iff_exists'.1 (mt List.getLast?_eq_none_iff.1 hne)
  have h_editor : t.editor = t'.editor := h.editor.trans h'.editor.symm
  have h_enabled : t.follow.enabled = t'.follow.enabled := h.enabled.trans h'.enabled.symm
  have h_line : t.follow.lastLine = t'.follow.lastLine :=
    (h.lastLine last h_last).trans (h'.lastLine last h_last).symm
  refine ⟨?_, ?_, h_editor, ?_, ?_⟩
  · rw [h.selection last h_last, h'.selection last h_last]
  · exact congrArg₂ Follow.mk h_enabled h_line
  · rw [h.focusRequested hne, h'.focusRequested hne]
  · rw [h.knownLine hne, h'.knownLine hne, h_editor]

end Decided

theorem decided_frame (s : Session ε) (events : List SectionEvent) :
    Decided s (activations events) (s.frame events) := by
  rw [frame_eq_foldl]
  exact (decided_beginFrame s).foldl_handle events

theorem jumps_foldl_jump (pad : Notepad) (jumps : List Jump) :
    (jumps.foldl Editor.jump pad).jumps = pad.jumps ++ jumps := by
  induction jumps generalizing pad with
  | nil => exact (List.append_nil _).symm
  | cons j jumps ih =>
      rw [List.foldl_cons, ih]
      exact List.append_assoc pad.jumps [j] jumps

/-- The jumps that a frame asks for are those of its activations, in order. -/
theorem jumps_frame (s : Session Notepad) (events : List SectionEvent) :
    (s.frame events).editor.jumps = s.editor.jumps ++ (activations events).map s.jumpTo := by
  rw [(s.decided_frame events).editor, jumps_foldl_jump]

end Session

/-- In a frame with an activation, the last one decides what is selected and followed, the
editor obeys the jumps of the activations one after the other, and no hover makes a
difference to any of this. -/
theorem Session.frame_of_activations_ne_nil {ε : Type} [Editor ε] (s : Session ε)
    {events : List SectionEvent} (h : activations events ≠ []) :
    let last := ((activations events).getLast h).line
    let t := s.frame events
    let alone := s.frame (events.filter fun e => !e.isHover)
    t.selection = s.outline.enclosing? last ∧
      t.follow.lastLine = some last ∧
      t.editor = ((activations events).map s.jumpTo).foldl Editor.jump s.editor ∧
      t.selection = alone.selection ∧ t.follow = alone.follow ∧ t.editor = alone.editor ∧
      t.focusRequested = alone.focusRequested ∧ t.knownLine = alone.knownLine := by
  have h_decided := s.decided_frame events
  have h_alone := s.decided_frame (events.filter fun e => !e.isHover)
  rw [SectionEvent.activations_filter_not_isHover] at h_alone
  have h_last := List.getLast_mem_getLast? h
  exact ⟨h_decided.selection _ h_last, h_decided.lastLine _ h_last, h_decided.editor,
    h_decided.eq_of_ne_nil h_alone h⟩

/-- A pad that records its jumps is sent to the second line once, although the first line is
hovered before and after. -/
theorem Session.frame_hover_activate_hover :
    ∃ (s : Session Notepad) (events : List SectionEvent),
      s.Reachable "M(\"A\");\nM(\"A/B\");\n" {} { marker := "M" } ∧
        events = [.hover ⟨"demo", 1, "A"⟩, .activate ⟨"demo", 2, "A/B"⟩,
          .hover ⟨"demo", 1, "A"⟩] ∧
        activations events ≠ [] ∧
        (s.frame events).selection = s.outline.enclosing? 2 ∧
        (s.frame events).follow = (s.frame [.activate ⟨"demo", 2, "A/B"⟩]).follow ∧
        (s.frame events).editor.jumps = [⟨2, 0, 3⟩] := by
  have h_start : Session.Reachable "M(\"A\");\nM(\"A/B\");\n" ({} : Notepad) { marker := "M" }
      (Session.start (TaggedSource.parse ⟨"M", by decide⟩ "M(\"A\");\nM(\"A/B\");\n") {}
        { marker := "M" }) := .start rfl
  have h_events : activations [.hover ⟨"demo", 1, "A"⟩, .activate ⟨"demo", 2, "A/B"⟩,
      .hover ⟨"demo", 1, "A"⟩] ≠ [] := by decide
  obtain ⟨h_selection, -, h_editor, -, h_follow, -⟩ :=
    Session.frame_of_activations_ne_nil (Session.start (TaggedSource.parse ⟨"M", by decide⟩
      "M(\"A\");\nM(\"A/B\");\n") ({} : Notepad) { marker := "M" }) h_events
  exact ⟨_, _, h_start, rfl, h_events, h_selection, h_follow, congrArg Notepad.jumps h_editor⟩

end Showcase
