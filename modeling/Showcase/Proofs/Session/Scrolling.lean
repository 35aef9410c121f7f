import Showcase.Proofs.Demo.Hover
import Showcase.Proofs.Session.Frame

/-!
# Where a frame scrolls the outline

The outline is asked to scroll to a section when it is revealed, and the latest request
counts. Every event that takes effect looks for a section, but only one that finds a section
reveals it; an activation in no section selects nothing and leaves the request as it is.

After an activation no hover takes effect. So the events of a frame come to the hovers
before the first activation and then the activations, and the request at the end is that of
the last activation which found a section, or else of the last hover before them which did,
or else the one that the frame began with. A hover is thus overridden exactly if some
activation finds a section.
-/

namespace Showcase

open SectionEvent (activations hovers)

namespace OutlineView

/-- Reveals nodes one after the other. -/
def revealAll (v : OutlineView) (s : Sections) (ids : List NodeId) : OutlineView :=
  ids.foldl (fun v id => v.reveal s id) v

variable {v : OutlineView} {s : Sections}

theorem revealAll_append (ids later : List NodeId) :
    v.revealAll s (ids ++ later) = (v.revealAll s ids).revealAll s later :=
  List.foldl_append

/-- The node that was revealed last is scrolled to. -/
theorem scrollTarget_revealAll (ids : List NodeId) :
    (v.revealAll s ids).scrollTarget = ids.getLast?.or v.scrollTarget := by
  induction ids using List.reverseRecOn with
  | nil => rfl
  | append_singleton ids id _ =>
      rw [revealAll_append, List.getLast?_concat]
      rfl

end OutlineView

namespace SectionEvent

/-- The places that are hovered before anything is activated, in order. -/
def leadingHovers (events : List SectionEvent) : List SectionSite :=
  hovers (events.takeWhile isHover)

theorem leadingHovers_filter_not_isHover (events : List SectionEvent) :
    leadingHovers (events.filter fun e => !e.isHover) = [] := by
  induction events with
  | nil => rfl
  | cons event events ih =>
      cases event with
      | hover site => exact ih
      | activate site => rfl

end SectionEvent

open SectionEvent (leadingHovers)

/-- Leaves out the places whose line has just been followed, `last` being the line that was
followed before them all. -/
def newlyFollowed (last : Option Nat) : List SectionSite → List SectionSite
  | [] => []
  | site :: rest =>
    if last = some site.line then newlyFollowed last rest
    else site :: newlyFollowed (some site.line) rest

namespace Session

variable {ε : Type}

/-- The sections around places, in order; a place in no section is passed over. -/
def sectionsAt (s : Session ε) (sites : List SectionSite) : List NodeId :=
  sites.filterMap fun site => s.outline.enclosing? site.line

theorem sectionsAt_cons (s : Session ε) (site : SectionSite) (sites : List SectionSite) :
    s.sectionsAt (site :: sites) =
      (s.outline.enclosing? site.line).toList ++ s.sectionsAt sites := by
  rw [sectionsAt, sectionsAt, List.filterMap_cons]
  cases s.outline.enclosing? site.line with
  | none => rfl
  | some id => rfl

/-! ## What single events do to the view -/

/-- The view once the section around a line is presented, if there is one. -/
def viewAround (s : Session ε) (line : Nat) : OutlineView :=
  s.view.revealAll s.outline.toSections (s.outline.enclosing? line).toList

theorem selectAround_eq (s : Session ε) (line : Nat) :
    s.selectAround line =
      { s with selection := s.outline.enclosing? line, view := s.viewAround line } := by
  rw [selectAround]
  split
  · rename_i id h
    simp only [viewAround, h]
    rfl
  · rename_i h
    simp only [viewAround, h]
    rfl

theorem hover_of_follows {s : Session ε} {site : SectionSite} (h : s.follows site.line = true) :
    s.hover site =
      { s with
        follow := { s.follow with lastLine := some site.line }
        selection := s.outline.enclosing? site.line
        view := s.viewAround site.line } := by
  rw [hover, if_pos h]
  exact selectAround_eq _ site.line

theorem hover_of_not_follows {s : Session ε} {site : SectionSite}
    (h : s.follows site.line = false) : s.hover site = s := by
  rw [hover, h]
  rfl

theorem hover_of_activated {s : Session ε} (h : s.activated = true) (site : SectionSite) :
    s.hover site = s := by
  apply hover_of_not_follows
  rw [follows, h, Bool.not_true, Bool.and_false, Bool.false_and]

theorem hover_of_not_enabled {s : Session ε} (h : s.follow.enabled = false)
    (site : SectionSite) : s.hover site = s := by
  apply hover_of_not_follows
  rw [follows, h, Bool.false_and, Bool.false_and]

/-! ## Hovers before the first activation -/

/-- Hovers reveal the sections around them, except that a line which has just been followed is
not followed again. -/
theorem view_foldl_hover {s : Session ε} (hactivated : s.activated = false)
    (henabled : s.follow.enabled = true) (sites : List SectionSite) :
    (sites.foldl hover s).view =
      s.view.revealAll s.outline.toSections
        (s.sectionsAt (newlyFollowed s.follow.lastLine sites)) := by
  induction sites generalizing s with
  | nil => rfl
  | cons site sites ih =>
      rw [List.foldl_cons, newlyFollowed]
      split
      · rename_i h_last
        have h_ignored : s.follows site.line = false := by
          rw [follows, h_last, bne_self_eq_false, Bool.and_false]
        rw [hover_of_not_follows h_ignored]
        exact ih hactivated henabled
      · rename_i h_last
        have h_follows : s.follows site.line = true := by
          rw [follows, hactivated, henabled, bne_iff_ne.2 h_last]
          rfl
        rw [hover_of_follows h_follows, sectionsAt_cons, OutlineView.revealAll_append]
        exact ih hactivated henabled

/-- What leaves the subject of a session alone for one place does so for one after the other. -/
theorem outline_foldl {act : Session ε → SectionSite → Session ε}
    (h : ∀ t site, (act t site).subject = t.subject) (s : Session ε)
    (sites : List SectionSite) : (sites.foldl act s).outline = s.outline := by
  induction sites generalizing s with
  | nil => rfl
  | cons site sites ih =>
      rw [List.foldl_cons, ih]
      exact congrArg (·.2.1) (h s site)

theorem foldl_hover_of_not_enabled {s : Session ε} (h : s.follow.enabled = false)
    (sites : List SectionSite) : sites.foldl hover s = s := by
  induction sites with
  | nil => rfl
  | cons site sites ih => rw [List.foldl_cons, hover_of_not_enabled h, ih]

/-- The places that are followed before the first activation of a frame with these events. -/
def followedFirst (s : Session ε) (events : List SectionEvent) : List SectionSite :=
  if s.follow.enabled then newlyFollowed s.follow.lastLine (leadingHovers events) else []

theorem view_foldl_hover_beginFrame (s : Session ε) (events : List SectionEvent) :
    ((leadingHovers events).foldl hover s.beginFrame).view =
      s.view.revealAll s.outline.toSections (s.sectionsAt (s.followedFirst events)) := by
  cases h : s.follow.enabled with
  | false =>
      have h_begun : s.beginFrame.follow.enabled = false := h
      rw [foldl_hover_of_not_enabled h_begun, followedFirst, h]
      rfl
  | true =>
      have h_begun : s.beginFrame.follow.enabled = true := h
      rw [view_foldl_hover rfl h_begun, followedFirst, h]
      rfl

variable [Editor ε]

/-! ## Activations, and hovers behind them -/

theorem activate_eq (s : Session ε) (site : SectionSite) :
    s.activate site =
      { s with
        activated := true
        focusRequested := true
        follow := { s.follow with lastLine := some site.line }
        editor := Editor.jump s.editor (s.jumpTo site)
        knownLine := (Editor.cursor (Editor.jump s.editor (s.jumpTo site))).line
        selection := s.outline.enclosing? site.line
        view := s.viewAround site.line } := by
  rw [activate]
  exact selectAround_eq _ site.line

theorem activated_activate (s : Session ε) (site : SectionSite) :
    (s.activate site).activated = true := by
  rw [activate_eq]

theorem view_foldl_activate (s : Session ε) (sites : List SectionSite) :
    (sites.foldl activate s).view =
      s.view.revealAll s.outline.toSections (s.sectionsAt sites) := by
  induction sites generalizing s with
  | nil => rfl
  | cons site sites ih =>
      rw [List.foldl_cons, ih, activate_eq, sectionsAt_cons, OutlineView.revealAll_append]
      rfl

/-- After an activation only activations count. -/
theorem foldl_handle_of_activated {s : Session ε} (h : s.activated = true)
    (events : List SectionEvent) :
    events.foldl handle s = (activations events).foldl activate s := by
  induction events generalizing s with
  | nil => rfl
  | cons event events ih =>
      cases event with
      | hover site =>
          rw [List.foldl_cons, handle, hover_of_activated h]
          exact ih h
      | activate site => exact ih (s.activated_activate site)

/-- Events come to the hovers before the first activation, and then the activations. -/
theorem foldl_handle_eq (s : Session ε) (events : List SectionEvent) :
    events.foldl handle s =
      (activations events).foldl activate ((leadingHovers events).foldl hover s) := by
  induction events generalizing s with
  | nil => rfl
  | cons event events ih =>
      cases event with
      | hover site => exact ih (s.hover site)
      | activate site => exact foldl_handle_of_activated (s.activated_activate site) events

/-! ## The view at the end of a frame -/

/-- A frame reveals the sections around what is followed before the first activation, and then
those around what is activated. -/
theorem view_frame (s : Session ε) (events : List SectionEvent) :
    (s.frame events).view =
      s.view.revealAll s.outline.toSections
        (s.sectionsAt (s.followedFirst events) ++ s.sectionsAt (activations events)) := by
  have h_outline : ((leadingHovers events).foldl hover s.beginFrame).outline = s.outline :=
    outline_foldl subject_hover s.beginFrame (leadingHovers events)
  rw [frame_eq_foldl, foldl_handle_eq, view_foldl_activate, sectionsAt, h_outline,
    view_foldl_hover_beginFrame, OutlineView.revealAll_append]
  rfl

theorem scrollTarget_frame (s : Session ε) (events : List SectionEvent) :
    (s.frame events).view.scrollTarget =
      (s.sectionsAt (activations events)).getLast?.or
        ((s.sectionsAt (s.followedFirst events)).getLast?.or s.view.scrollTarget) := by
  rw [view_frame, OutlineView.scrollTarget_revealAll, List.getLast?_append, Option.or_assoc]

end Session

/-- At the end of a frame the outline is asked to scroll to the section found by the last
activation that finds one. If none does, a hover before the first activation decides, the last
that is followed and finds a section; without hovers the request is then the one that the frame
began with. So hovers make no difference exactly if some activation finds a section, or if the
request was for the section that the hovers lead to, if any. -/
theorem Session.scrollTarget_frame_eq_iff {ε : Type} [Editor ε] (s : Session ε)
    (events : List SectionEvent) :
    let found := s.sectionsAt (activations events)
    let hovered := s.sectionsAt (s.followedFirst events)
    let t := s.frame events
    let alone := s.frame (events.filter fun e => !e.isHover)
    t.view.scrollTarget = found.getLast?.or (hovered.getLast?.or s.view.scrollTarget) ∧
      alone.view.scrollTarget = found.getLast?.or s.view.scrollTarget ∧
      (t.view.scrollTarget = alone.view.scrollTarget ↔
        found ≠ [] ∨ ∀ id ∈ hovered.getLast?, s.view.scrollTarget = some id) := by
  intro found hovered t alone
  have h_scroll : t.view.scrollTarget = _ := s.scrollTarget_frame events
  have h_alone : alone.view.scrollTarget = found.getLast?.or s.view.scrollTarget := by
    have h_first : s.followedFirst (events.filter fun e => !e.isHover) = [] := by
      rw [followedFirst, SectionEvent.leadingHovers_filter_not_isHover]
      exact ite_self []
    rw [scrollTarget_frame, SectionEvent.activations_filter_not_isHover, h_first]
    rfl
  refine ⟨h_scroll, h_alone, ?_⟩
  rw [h_scroll, h_alone]
  rcases List.eq_nil_or_concat found with h_none | ⟨before, last, h_found⟩
  · show (found.getLast?.or (hovered.getLast?.or _) = _) ↔ _
    rw [h_none]
    cases hovered.getLast? with
    | none => simp
    | some id => simp [eq_comm]
  · show (found.getLast?.or (hovered.getLast?.or _) = _) ↔ _
    rw [h_found]
    simp

/-- A hover is followed into a section, and then a line before all sections is activated. What
is selected is overridden, but the outline still scrolls to the section that was hovered. -/
theorem Session.scrollTarget_frame_activation_misses :
    ∃ (s : Session Notepad) (events : List SectionEvent),
      s.Reachable "x\nM(\"A\");\n" {} { marker := "M" } ∧
        events = [.hover ⟨"demo", 2, "A"⟩, .activate ⟨"demo", 1, "B"⟩] ∧
        activations events ≠ [] ∧
        (s.frame events).view.scrollTarget = some ⟨0⟩ ∧
        (s.frame (events.filter fun e => !e.isHover)).view.scrollTarget = none := by
  have h_start : Session.Reachable "x\nM(\"A\");\n" ({} : Notepad) { marker := "M" }
      (Session.start (TaggedSource.parse ⟨"M", by decide⟩ "x\nM(\"A\");\n") {}
        { marker := "M" }) := .start rfl
  exact ⟨_, _, h_start, rfl, by decide, by decide +kernel, by decide +kernel⟩

end Showcase
