import Showcase.Proofs.Session.Influence
import Showcase.Proofs.Session.Scrolling

/-!
# Events that arrive again

A frame may take several passes, and each pass reports the same events again. The second time
they find another session: after an activation hovers are ignored, and a line that was followed
is not followed again. Nothing comes of them, provided that a pass reports no more than one
hover. For the latest activation decides everything except what is expanded and where the
outline scrolls, and everything around the sections that were found is expanded by then.

This takes an editor for which only the latest jump counts. A code pane is one.
-/

namespace Showcase

open SectionEvent (activations hovers leadingHovers)

namespace OutlineView

variable {v : OutlineView} {s : Sections} {ids : List NodeId}

theorem foldl_expand_of_forall_mem (h : ∀ id ∈ ids, id ∈ v.expanded) :
    ids.foldl expand v = v := by
  induction ids with
  | nil => rfl
  | cons id ids ih =>
      have h_expand : v.expand id = v := by
        rw [expand, List.insert_of_mem (h id List.mem_cons_self)]
      rw [List.foldl_cons, h_expand]
      exact ih fun other h_other => h other (List.mem_cons_of_mem id h_other)

/-- Where everything around a node is expanded already, revealing it only asks to scroll. -/
theorem reveal_of_forall_mem {id : NodeId} (h : ∀ a ∈ s.ancestors id, a ∈ v.expanded) :
    v.reveal s id = { v with scrollTarget := some id } := by
  rw [reveal, foldl_expand_of_forall_mem h]

theorem revealAll_concat (v : OutlineView) (s : Sections) (ids : List NodeId) (id : NodeId) :
    v.revealAll s (ids ++ [id]) = (v.revealAll s ids).reveal s id :=
  revealAll_append ids [id]

theorem mem_expanded_revealAll {a : NodeId} :
    a ∈ (v.revealAll s ids).expanded ↔ (∃ id ∈ ids, a ∈ s.ancestors id) ∨ a ∈ v.expanded := by
  induction ids using List.reverseRecOn with
  | nil => simp [revealAll]
  | append_singleton ids id ih =>
      rw [revealAll_concat, mem_expanded_reveal, ih]
      simp only [List.mem_append, List.mem_singleton, or_and_right, exists_or, exists_eq_left]
      rw [or_assoc, or_left_comm]

theorem revealAll_of_forall_mem (h : ∀ id ∈ ids, ∀ a ∈ s.ancestors id, a ∈ v.expanded) :
    v.revealAll s ids = { v with scrollTarget := ids.getLast?.or v.scrollTarget } := by
  induction ids using List.reverseRecOn with
  | nil => rfl
  | append_singleton ids id ih =>
      have h_before := ih fun other h_other => h other (List.mem_append_left [id] h_other)
      have h_around : ∀ a ∈ s.ancestors id, a ∈ (v.revealAll s ids).expanded := by
        rw [h_before]
        exact h id (List.mem_append_right ids List.mem_cons_self)
      rw [revealAll_concat, reveal_of_forall_mem h_around, h_before, List.getLast?_concat]
      rfl

theorem revealAll_revealAll (v : OutlineView) (s : Sections) (ids : List NodeId) :
    (v.revealAll s ids).revealAll s ids = v.revealAll s ids := by
  have h_around : ∀ id ∈ ids, ∀ a ∈ s.ancestors id, a ∈ (v.revealAll s ids).expanded :=
    fun id h_id a h_a => mem_expanded_revealAll.2 (.inl ⟨id, h_id, h_a⟩)
  rw [revealAll_of_forall_mem h_around, scrollTarget_revealAll, ← Option.or_assoc,
    Option.or_self, ← scrollTarget_revealAll]

end OutlineView

namespace Session

theorem eq_of_hidden_eq {ε : Type} {s t : Session ε} (h : s.hidden true = t.hidden true)
    (hview : s.view = t.view) : s = t := by
  have h_back : ∀ u : Session ε, { u.hidden true with view := u.view } = u := fun _ => rfl
  rw [← h_back s, ← h_back t, h, hview]

/-- A line that has been followed is not followed again. -/
theorem hover_hover {ε : Type} (s : Session ε) (site : SectionSite) :
    (s.hover site).hover site = s.hover site := by
  cases h : s.follows site.line with
  | false => rw [hover_of_not_follows h, hover_of_not_follows h]
  | true =>
      have h_again : (s.hover site).follows site.line = false := by
        rw [hover_of_follows h, follows, bne_self_eq_false, Bool.and_false]
      exact hover_of_not_follows h_again

/-! ## Activations again -/

variable (s : Session CodePane)

/-- What an activation decides it decides alone, apart from the view. -/
theorem hidden_activate_activate (first last : SectionSite) :
    ((s.activate first).activate last).hidden true = (s.activate last).hidden true := by
  rw [activate_eq, activate_eq, activate_eq]
  rfl

theorem hidden_activate_foldl_activate (sites : List SectionSite) (last : SectionSite) :
    ((sites.foldl activate s).activate last).hidden true = (s.activate last).hidden true := by
  induction sites generalizing s with
  | nil => rfl
  | cons site sites ih => rw [List.foldl_cons, ih, hidden_activate_activate]

theorem activated_foldl_activate {sites : List SectionSite} (h : sites ≠ []) :
    (sites.foldl activate s).activated = true := by
  obtain ⟨before, last, rfl⟩ := (List.eq_nil_or_concat sites).resolve_left h
  rw [List.concat_eq_append, List.foldl_concat]
  exact activated_activate _ last

theorem foldl_activate_foldl_activate (sites : List SectionSite) :
    sites.foldl activate (sites.foldl activate s) = sites.foldl activate s := by
  apply eq_of_hidden_eq
  · rcases List.eq_nil_or_concat sites with rfl | ⟨before, last, rfl⟩
    · rfl
    · rw [List.concat_eq_append, List.foldl_concat, List.foldl_concat,
        hidden_activate_foldl_activate, hidden_activate_activate]
  · have h_outline : (sites.foldl activate s).outline = s.outline :=
      outline_foldl subject_activate s sites
    rw [view_foldl_activate, h_outline, sectionsAt, h_outline, view_foldl_activate,
      ← sectionsAt, OutlineView.revealAll_revealAll]

/-! ## All events again -/

theorem foldl_handle_foldl_handle {events : List SectionEvent}
    (h : (hovers events).length ≤ 1) :
    events.foldl handle (events.foldl handle s) = events.foldl handle s := by
  by_cases h_none : activations events = []
  · -- only hovers, at most one
    have h_hovers : ∀ t : Session CodePane,
        events.foldl handle t = (leadingHovers events).foldl hover t := by
      intro t
      rw [foldl_handle_eq, h_none]
      rfl
    have h_length : (leadingHovers events).length ≤ 1 :=
      Nat.le_trans ((List.takeWhile_sublist _).filterMap _).length_le h
    rw [h_hovers, h_hovers]
    rcases Nat.le_one_iff_eq_zero_or_eq_one.1 h_length with h_zero | h_one
    · rw [List.length_eq_zero_iff.1 h_zero]
      rfl
    · obtain ⟨site, h_site⟩ := List.length_eq_one_iff.1 h_one
      rw [h_site]
      exact s.hover_hover site
  · -- the hovers come after an activation now
    rw [foldl_handle_eq s]
    rw [foldl_handle_of_activated (activated_foldl_activate _ h_none)]
    exact foldl_activate_foldl_activate _ (activations events)

theorem run_map_event (events : List SectionEvent) :
    s.run (events.map .event) = events.foldl handle s := by
  rw [run, List.foldl_map]
  rfl

/-- What a pass over sections reports may arrive again in the same frame. -/
theorem run_run_pass (sections : List DrawnSection) :
    let steps := (Report.events (DrawnSection.pass sections).2).map SessionStep.event
    (s.run steps).run steps = s.run steps := by
  intro steps
  rw [run_map_event, run_map_event]
  exact s.foldl_handle_foldl_handle (DrawnSection.length_hovers_pass_le sections)

end Session

/-- Events that arrive a second time in the same frame, with no more than one hover among them,
leave a session over a code pane as it was after the first time. -/
theorem Session.run_run_events (s : Session CodePane) {events : List SectionEvent}
    (h : (hovers events).length ≤ 1) :
    let steps := events.map SessionStep.event
    (s.run steps).run steps = s.run steps := by
  intro steps
  rw [run_map_event, run_map_event]
  exact s.foldl_handle_foldl_handle h

/-- A section is hovered, and then a line before it is activated. The hover is followed the first
time only, and yet nothing changes any more: neither what is selected nor where the outline
scrolls. -/
theorem Session.run_run_events_hover_first :
    ∃ (s : Session CodePane) (steps : List SessionStep) (t : Session CodePane),
      s.Reachable "x\nM(\"A\");\n" {} { marker := "M" } ∧
        steps = [.event (.hover ⟨"demo", 2, "A"⟩), .event (.activate ⟨"demo", 1, "x"⟩)] ∧
        t = s.run steps ∧ t.selection = none ∧ t.view.scrollTarget = some ⟨0⟩ ∧
        t.focusRequested = true ∧ t.run steps = t := by
  have h_start : Session.Reachable "x\nM(\"A\");\n" ({} : CodePane) { marker := "M" }
      (Session.start (TaggedSource.parse ⟨"M", by decide⟩ "x\nM(\"A\");\n") {}
        { marker := "M" }) := .start rfl
  have h_hovers : (hovers [.hover ⟨"demo", 2, "A"⟩, .activate ⟨"demo", 1, "x"⟩]).length ≤ 1 := by
    decide
  exact ⟨_, _, _, h_start, rfl, rfl, by decide +kernel, by decide +kernel, by decide +kernel,
    Session.run_run_events _ h_hovers⟩

end Showcase
