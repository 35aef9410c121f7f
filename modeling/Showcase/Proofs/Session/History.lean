import Showcase.Proofs.Outline.Enclosing
import Showcase.Proofs.Session.Frame

/-!
# The selection follows from the history

A history lists the steps of a session, the latest first, each with its answer and with the
line of the cursor when it was performed. Which steps are navigations that take effect can be
told from the history alone, and the latest of them says what is selected. A session itself
keeps no history: the fields for following and for the current frame sum up as much of it as
is needed.
-/

namespace Showcase

/-- A step of a session as it is remembered. -/
structure PastStep where
  step : SessionStep
  answer : Answer
  /-- Where the cursor was when the step was performed. -/
  cursorLine : Nat
  deriving DecidableEq, Repr

/-- What has happened in a session, the latest first. -/
abbrev History := List PastStep

namespace SessionStep

def isActivation : SessionStep → Bool
  | event e => !e.isHover
  | _ => false

/-- The entry of the outline that a step chooses. -/
def chosen? (t : Outline) : SessionStep → Option NodeId
  | select id => some id
  | selectPath path => t.find? path
  | _ => none

end SessionStep

namespace History

variable (initially : Bool)

/-- Whether hovers are followed, if they were `initially`. -/
def following : History → Bool
  | [] => initially
  | past :: earlier =>
    match past.step with
    | .setFollowing enabled => enabled
    | .toggleFollow => !following earlier
    | _ => following earlier

/-- Whether there was an activation since the frame began, or since the start. -/
def activated (history : History) : Bool :=
  (history.takeWhile fun past => past.step ≠ .beginFrame).any (·.step.isActivation)

/-- Whether a hover of `line` takes effect, `last` being the line that it has to differ from. -/
def admitsHover (history : History) (last : Option Nat) (line : Nat) : Bool :=
  history.following initially && !history.activated && last != some line

/-- The line of the latest activation or hover with effect since follow was last turned on. -/
def lastLine : History → Option Nat
  | [] => none
  | past :: earlier =>
    if !following initially earlier && following initially (past :: earlier) then none
    else
      match past.step with
      | .event (.activate site) => some site.line
      | .event (.hover site) =>
        if admitsHover initially earlier (lastLine earlier) site.line then some site.line
        else lastLine earlier
      | _ => lastLine earlier

/-- What a step selects after the steps before it, if it is a navigation that takes effect. -/
def navigated? (t : Outline) (earlier : History) (past : PastStep) : Option (Option NodeId) :=
  match past.step with
  | .event (.activate site) => some (t.enclosing? site.line)
  | .event (.hover site) =>
    if admitsHover initially earlier (lastLine initially earlier) site.line then
      some (t.enclosing? site.line)
    else none
  | .followCursor =>
    if past.answer = .flag true then some (t.enclosing? past.cursorLine) else none
  | step => ((step.chosen? t).filter (·.index < t.size)).map some

/-- What the latest navigation with effect selected; nothing before the first one. -/
def selection (t : Outline) : History → Option NodeId
  | [] => none
  | past :: earlier => (navigated? initially t earlier past).getD (selection t earlier)

variable {initially : Bool} {past : PastStep} {earlier : History}

theorem lastLine_cons (h : ∀ event, past.step ≠ .event event) :
    lastLine initially (past :: earlier) =
      if !following initially earlier && following initially (past :: earlier) then none
      else lastLine initially earlier := by
  rw [lastLine]
  split
  · rfl
  · split
    · rename_i site h_step
      exact absurd h_step (h _)
    · rename_i site h_step
      exact absurd h_step (h _)
    · rfl

/-- Only events, and turning follow on, can change the line that was followed last. -/
theorem lastLine_cons_of_following_eq (h : ∀ event, past.step ≠ .event event)
    (hfollow : following initially (past :: earlier) = following initially earlier) :
    lastLine initially (past :: earlier) = lastLine initially earlier := by
  rw [lastLine_cons h, hfollow]
  simp

/-- What is selected is a section, if the sections that enclose lines are. -/
theorem index_lt_of_navigated? {t : Outline}
    (ht : ∀ line id, t.enclosing? line = some id → id.index < t.size) {id : NodeId}
    (h : navigated? initially t earlier past = some (some id)) : id.index < t.size := by
  rw [navigated?] at h
  split at h
  · exact ht _ id (Option.some.inj h)
  · split at h
    · exact ht _ id (Option.some.inj h)
    · cases h
  · split at h
    · exact ht _ id (Option.some.inj h)
    · cases h
  · obtain ⟨chosen, h_chosen, h_eq⟩ := Option.map_eq_some_iff.1 h
    obtain rfl := Option.some.inj h_eq
    simpa using (Option.filter_eq_some_iff.1 h_chosen).2

theorem index_lt_of_selection {t : Outline}
    (ht : ∀ line id, t.enclosing? line = some id → id.index < t.size) {history : History}
    {id : NodeId} (h : selection initially t history = some id) : id.index < t.size := by
  induction history with
  | nil => cases h
  | cons past earlier ih =>
      rw [selection] at h
      cases h_navigated : navigated? initially t earlier past with
      | none =>
          rw [h_navigated] at h
          exact ih h
      | some selected =>
          rw [h_navigated, Option.getD_some] at h
          exact index_lt_of_navigated? ht (h_navigated.trans (congrArg some h))

end History

namespace Session

variable {ε : Type} [Editor ε]

/-- The sessions over a source that come to be with a history. The user may do anything to
the editor between two steps. -/
inductive Remembers (source : TaggedSource) (editor : ε) (options : Options) :
    History → Session ε → Prop
  | start : Remembers source editor options [] (start source editor options)
  | perform {history : History} {s : Session ε} (h : Remembers source editor options history s)
      (step : SessionStep) :
      Remembers source editor options (⟨step, (s.perform step).1, s.cursorLine⟩ :: history)
        (s.perform step).2
  | use {history : History} {s : Session ε} (h : Remembers source editor options history s)
      (e : ε) : Remembers source editor options history { s with editor := e }

/-- What a session keeps of its history. -/
structure SumsUp (t : Outline) (initially : Bool) (history : History) (s : Session ε) : Prop where
  outline : s.outline = t
  enabled : s.follow.enabled = history.following initially
  activated : s.activated = history.activated
  lastLine : s.follow.lastLine = history.lastLine initially
  selection : s.selection = history.selection initially t

variable {t : Outline} {initially : Bool} {history : History} {s : Session ε}

namespace SumsUp

theorem activate (h : SumsUp t initially history s) (site : SectionSite) (answer : Answer)
    (line : Nat) :
    SumsUp t initially (⟨.event (.activate site), answer, line⟩ :: history) (s.activate site) := by
  obtain ⟨view, h_eq⟩ := s.exists_activate_eq site
  rw [h_eq]
  refine ⟨h.outline, h.enabled, rfl, ?_, ?_⟩
  · simp [History.lastLine, History.following]
  · simp [History.selection, History.navigated?, h.outline]

omit [Editor ε] in
theorem hover (h : SumsUp t initially history s) (site : SectionSite) (answer : Answer)
    (line : Nat) :
    SumsUp t initially (⟨.event (.hover site), answer, line⟩ :: history) (s.hover site) := by
  have h_follows : s.follows site.line =
      history.admitsHover initially (history.lastLine initially) site.line := by
    rw [follows, h.enabled, h.activated, h.lastLine, History.admitsHover]
  unfold Session.hover
  rw [h_follows]
  split
  · rename_i h_admits
    obtain ⟨view, h_eq⟩ := exists_selectAround_eq
      { s with follow := { s.follow with lastLine := some site.line } } site.line
    rw [h_eq]
    refine ⟨h.outline, h.enabled, h.activated, ?_, ?_⟩
    · simp [History.lastLine, History.following, h_admits]
    · simp [History.selection, History.navigated?, h_admits, h.outline]
  · rename_i h_admits
    refine ⟨h.outline, h.enabled, h.activated, ?_, ?_⟩
    · simp [History.lastLine, History.following, h_admits, h.lastLine]
    · simp [History.selection, History.navigated?, h_admits, h.selection]

omit [Editor ε] in
/-- A step that is told to set follow, or that flips it, comes to the same. -/
theorem setFollowing (h : SumsUp t initially history s) {past : PastStep} {enabled : Bool}
    (hstep : past.step = .setFollowing enabled ∨
      past.step = .toggleFollow ∧ enabled = !history.following initially) :
    SumsUp t initially (past :: history) (s.setFollowing enabled) := by
  obtain ⟨step, answer, line⟩ := past
  have h_following : History.following initially (⟨step, answer, line⟩ :: history) = enabled := by
    rcases hstep with rfl | ⟨rfl, rfl⟩
    · rfl
    · rfl
  have h_last : History.lastLine initially (⟨step, answer, line⟩ :: history) =
      if enabled && !s.follow.enabled then none else s.follow.lastLine := by
    rw [History.lastLine_cons, h_following, h.enabled, h.lastLine, Bool.and_comm]
    rintro event rfl
    simp at hstep
  refine ⟨h.outline, h_following.symm, ?_, h_last.symm, ?_⟩
  · rcases hstep with rfl | ⟨rfl, rfl⟩
    · exact h.activated
    · exact h.activated
  · rcases hstep with rfl | ⟨rfl, rfl⟩
    · exact h.selection
    · exact h.selection

omit [Editor ε] in
/-- A step that navigates nowhere, is no event and leaves follow and the frame alone. -/
theorem idle (h : SumsUp t initially history s) {past : PastStep}
    (hevent : ∀ event, past.step ≠ .event event)
    (hfollowing : History.following initially (past :: history) = history.following initially)
    (hactivated : History.activated (past :: history) = history.activated)
    (hnavigated : history.navigated? initially t past = none) :
    SumsUp t initially (past :: history) s where
  outline := h.outline
  enabled := h.enabled.trans hfollowing.symm
  activated := h.activated.trans hactivated.symm
  lastLine := by
    rw [History.lastLine_cons_of_following_eq hevent hfollowing]
    exact h.lastLine
  selection := by
    rw [History.selection, hnavigated]
    exact h.selection

theorem select (h : SumsUp t initially history s) {past : PastStep} {id : NodeId}
    (hstep : past.step = .select id ∨
      ∃ path, past.step = .selectPath path ∧ t.find? path = some id) :
    SumsUp t initially (past :: history) (s.select id) := by
  obtain ⟨step, answer, line⟩ := past
  have h_event : ∀ event, step ≠ .event event := by
    rintro event rfl
    simp at hstep
  have h_following : History.following initially (⟨step, answer, line⟩ :: history) =
      history.following initially := by
    rcases hstep with rfl | ⟨path, rfl, -⟩
    · rfl
    · rfl
  have h_activated : History.activated (⟨step, answer, line⟩ :: history) =
      history.activated := by
    rcases hstep with rfl | ⟨path, rfl, -⟩
    · rfl
    · rfl
  have h_navigated : history.navigated? initially t ⟨step, answer, line⟩ =
      ((some id).filter (·.index < t.size)).map some := by
    rcases hstep with rfl | ⟨path, rfl, h_find⟩
    · rfl
    · rw [← h_find]
      rfl
  cases h_get : s.outline.get? id with
  | none =>
      have h_out : ¬ id.index < t.size := by
        rw [← h.outline, Nat.not_lt]
        exact Array.getElem?_eq_none_iff.1 h_get
      rw [select_of_none h_get]
      apply h.idle
      · exact h_event
      · exact h_following
      · exact h_activated
      · rw [h_navigated, Option.filter_some, if_neg (by simpa using h_out)]
        rfl
  | some node =>
      have h_in : id.index < t.size := by
        rw [← h.outline]
        exact (Array.getElem?_eq_some_iff.1 h_get).1
      rw [select_of_some h_get]
      refine ⟨h.outline, ?_, ?_, ?_, ?_⟩
      · exact h.enabled.trans h_following.symm
      · exact h.activated.trans h_activated.symm
      · rw [History.lastLine_cons_of_following_eq h_event h_following]
        exact h.lastLine
      · rw [History.selection, h_navigated, Option.filter_some, if_pos (by simpa using h_in)]
        rfl

theorem followCursor (h : SumsUp t initially history s) :
    SumsUp t initially (⟨.followCursor, .flag s.cursorMoved, s.cursorLine⟩ :: history)
      s.followCursor := by
  have h_event : ∀ event, SessionStep.followCursor ≠ .event event := fun _ =>
    SessionStep.noConfusion
  rw [Session.followCursor]
  cases h_moved : s.cursorMoved with
  | false =>
      apply h.idle
      · exact h_event
      · rfl
      · rfl
      · rfl
  | true =>
      refine ⟨h.outline, h.enabled, h.activated, ?_, ?_⟩
      · rw [History.lastLine_cons_of_following_eq h_event rfl]
        exact h.lastLine
      · simp [History.selection, History.navigated?, h.outline]

/-- Whatever is performed, a session goes on to sum up its history. -/
theorem perform (h : SumsUp t initially history s) (step : SessionStep) :
    SumsUp t initially (⟨step, (s.perform step).1, s.cursorLine⟩ :: history)
      (s.perform step).2 := by
  cases step with
  | event event =>
      cases event with
      | hover site => exact h.hover site _ _
      | activate site => exact h.activate site _ _
  | beginFrame =>
      refine ⟨h.outline, h.enabled, ?_, ?_, h.selection⟩
      · simp [History.activated, Session.perform, beginFrame]
      · rw [History.lastLine_cons_of_following_eq (fun _ => SessionStep.noConfusion) rfl]
        exact h.lastLine
  | toggleFollow => exact h.setFollowing (.inr ⟨rfl, by rw [h.enabled]⟩)
  | setFollowing enabled => exact h.setFollowing (.inl rfl)
  | select id => exact h.select (.inl rfl)
  | selectPath path =>
      cases h_find : s.outline.find? path with
      | none =>
          rw [perform_selectPath_of_none h_find]
          apply h.idle
          · exact fun _ => SessionStep.noConfusion
          · rfl
          · rfl
          · rw [h.outline] at h_find
            simp [History.navigated?, SessionStep.chosen?, h_find]
      | some id =>
          rw [perform_selectPath_of_some h_find]
          rw [h.outline] at h_find
          exact h.select (.inr ⟨path, rfl, h_find⟩)
  | followCursor => exact h.followCursor
  | _ =>
      refine ⟨h.outline, h.enabled, h.activated, ?_, h.selection⟩
      rw [History.lastLine_cons_of_following_eq (fun _ => SessionStep.noConfusion) rfl]
      exact h.lastLine

end SumsUp

theorem Remembers.sumsUp {source : TaggedSource} {editor : ε} {options : Options}
    (h : Remembers source editor options history s) :
    SumsUp (Outline.ofTags source.tags options.pathDelimiter) options.followOnStart history s := by
  induction h with
  | start => exact ⟨rfl, rfl, rfl, rfl, rfl⟩
  | perform _ step ih => exact ih.perform step
  | use _ e ih => exact ⟨ih.outline, ih.enabled, ih.activated, ih.lastLine, ih.selection⟩

/-- Every reachable session has a history. -/
theorem Reachable.exists_remembers [LandingEditor ε] {text : String} {editor : ε}
    {options : Options} (h : Reachable text editor options s) :
    ∃ marker history, Marker.ofText options.marker = .ok marker ∧
      Remembers (TaggedSource.parse marker text) editor options history s := by
  induction h with
  | start h =>
      obtain ⟨marker, h_marker, rfl⟩ := ofText_eq_ok h
      exact ⟨marker, [], h_marker, .start⟩
  | perform _ step ih =>
      obtain ⟨marker, history, h_marker, h_remembers⟩ := ih
      exact ⟨marker, _, h_marker, h_remembers.perform step⟩
  | @use _ _ e _ ih =>
      obtain ⟨marker, history, h_marker, h_remembers⟩ := ih
      exact ⟨marker, history, h_marker, h_remembers.use e⟩

end Session

/-- What is selected in a session is what the latest navigation with effect in its history
selected, and is nothing or a section of the outline. -/
theorem Session.selection_of_remembers {ε : Type} [Editor ε] {source : TaggedSource} {editor : ε}
    {options : Options} {history : History} {s : Session ε}
    (h : Remembers source editor options history s) :
    let t := Outline.ofTags source.tags options.pathDelimiter
    s.selection = history.selection options.followOnStart t ∧
      ∀ id, s.selection = some id → id.index < t.size := by
  intro t
  have h_selection : s.selection = history.selection options.followOnStart t := h.sumsUp.selection
  refine ⟨h_selection, ?_⟩
  intro id h_id
  rw [h_selection] at h_id
  exact History.index_lt_of_selection
    (fun _ _ h_enclosing => Sections.index_lt_of_enclosing? h_enclosing) h_id

/-- The second line is hovered, another section chosen, and the second line hovered again: it
was followed last, so this hover takes effect only once follow was turned off and on. -/
theorem Session.selection_of_remembers_followed_again :
    ∃ (history : History) (s : Session Notepad),
      Remembers (TaggedSource.parse ⟨"M", by decide⟩ "M(\"A\");\nM(\"A/B\");\n") ({} : Notepad)
          { marker := "M" } history s ∧
        history.reverse.map (·.step) =
          [.event (.hover ⟨"demo", 2, "A/B"⟩), .select ⟨0⟩, .setFollowing false,
            .setFollowing true, .event (.hover ⟨"demo", 2, "A/B"⟩)] ∧
        s.selection = (Outline.ofTags (TaggedSource.parse ⟨"M", by decide⟩
          "M(\"A\");\nM(\"A/B\");\n").tags '/').enclosing? 2 := by
  have h_start : Remembers (TaggedSource.parse ⟨"M", by decide⟩ "M(\"A\");\nM(\"A/B\");\n")
      ({} : Notepad) { marker := "M" } [] _ := .start
  have h_chosen := (h_start.perform (.event (.hover ⟨"demo", 2, "A/B"⟩))).perform (.select ⟨0⟩)
  have h_hover := ((h_chosen.perform (.setFollowing false)).perform (.setFollowing true)).perform
    (.event (.hover ⟨"demo", 2, "A/B"⟩))
  refine ⟨_, _, h_hover, rfl, ?_⟩
  exact (Session.selection_of_remembers h_hover).1

end Showcase
