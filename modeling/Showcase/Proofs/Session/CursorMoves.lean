import Mathlib.Data.List.DropRight
import Showcase.Proofs.Session.History

/-!
# Moves of the user's own

A session tells that the user has moved the cursor by the line that it knows about. It takes
note of the line whenever it has sent the cursor somewhere and whenever it is told to follow the
cursor, and at no other step. So in any run the known line is the one that the cursor was on
right after the latest of these steps, or at the start if there was none, wherever the editor
put the cursor then and whatever has happened to it since.
-/

namespace Showcase

/-- Whether a session takes note of where a step leaves the cursor: at an activation, at the
choice of an entry that there is, and when it follows the cursor. -/
def SessionStep.notesCursor (t : Outline) (step : SessionStep) : Bool :=
  step.isActivation || (step.chosen? t).any (·.index < t.size) || step = .followCursor

/-- What can happen in a session: a step is performed, or the user leaves the editor in some
state. -/
inductive Turn (ε : Type)
  | perform (step : SessionStep)
  | use (editor : ε)

/-- Whether a session takes note of the cursor at a turn. The user's own doings go unnoticed. -/
def Turn.notesCursor {ε : Type} (t : Outline) : Turn ε → Bool
  | perform step => step.notesCursor t
  | use _ => false

namespace Session

variable {ε : Type} [Editor ε]

def turn (s : Session ε) : Turn ε → Session ε
  | .perform step => (s.perform step).2
  | .use editor => { s with editor }

def play (s : Session ε) (turns : List (Turn ε)) : Session ε :=
  turns.foldl turn s

theorem play_concat (s : Session ε) (turns : List (Turn ε)) (last : Turn ε) :
    s.play (turns ++ [last]) = (s.play turns).turn last := by
  rw [play, List.foldl_concat]
  rfl

theorem subject_turn (s : Session ε) (turn : Turn ε) : (s.turn turn).subject = s.subject := by
  cases turn with
  | perform step => exact s.subject_perform step
  | use editor => rfl

theorem subject_play (s : Session ε) (turns : List (Turn ε)) :
    (s.play turns).subject = s.subject := by
  induction turns using List.reverseRecOn with
  | nil => rfl
  | append_singleton turns last ih => rw [play_concat, subject_turn, ih]

theorem source_play (s : Session ε) (turns : List (Turn ε)) :
    (s.play turns).source = s.source :=
  congrArg (·.1) (s.subject_play turns)

theorem outline_play (s : Session ε) (turns : List (Turn ε)) :
    (s.play turns).outline = s.outline :=
  congrArg (·.2.1) (s.subject_play turns)

/-! ## The known line -/

theorem knownLine_activate (s : Session ε) (site : SectionSite) :
    (s.activate site).knownLine = (s.activate site).cursorLine := by
  obtain ⟨view, h_eq⟩ := s.exists_activate_eq site
  rw [h_eq]
  rfl

omit [Editor ε] in
theorem knownLine_hover (s : Session ε) (site : SectionSite) :
    (s.hover site).knownLine = s.knownLine := by
  rcases s.hover_cases site with h_eq | ⟨-, view, h_eq⟩
  · rw [h_eq]
  · rw [h_eq]

theorem knownLine_select (s : Session ε) (id : NodeId) :
    (s.select id).knownLine =
      if id.index < s.outline.size then (s.select id).cursorLine else s.knownLine := by
  cases h : s.outline.get? id with
  | none =>
      have h_out : ¬ id.index < s.outline.size := Nat.not_lt.2 (Array.getElem?_eq_none_iff.1 h)
      rw [select_of_none h, if_neg h_out]
  | some node =>
      have h_in : id.index < s.outline.size := (Array.getElem?_eq_some_iff.1 h).1
      rw [select_of_some h, if_pos h_in]
      rfl

theorem knownLine_followCursor (s : Session ε) :
    s.followCursor.knownLine = s.followCursor.cursorLine := by
  unfold followCursor
  split
  · rfl
  · rename_i h_still
    rw [cursorMoved, bne_iff_ne, not_not] at h_still
    exact h_still.symm

theorem knownLine_perform (s : Session ε) (step : SessionStep) :
    (s.perform step).2.knownLine =
      if step.notesCursor s.outline then (s.perform step).2.cursorLine else s.knownLine := by
  cases step with
  | event event =>
      cases event with
      | hover site => exact s.knownLine_hover site
      | activate site => exact s.knownLine_activate site
  | select id =>
      have h_notes : (SessionStep.select id).notesCursor s.outline =
          decide (id.index < s.outline.size) := by
        simp [SessionStep.notesCursor, SessionStep.isActivation, SessionStep.chosen?]
      simp only [h_notes, decide_eq_true_eq]
      exact s.knownLine_select id
  | selectPath path =>
      have h_notes : (SessionStep.selectPath path).notesCursor s.outline =
          (s.outline.find? path).any (·.index < s.outline.size) := by
        simp [SessionStep.notesCursor, SessionStep.isActivation, SessionStep.chosen?]
      cases h_find : s.outline.find? path with
      | none =>
          rw [h_notes, h_find, perform_selectPath_of_none h_find]
          rfl
      | some id =>
          rw [h_notes, h_find, perform_selectPath_of_some h_find, knownLine_select]
          simp
  | followCursor => exact s.knownLine_followCursor
  | _ => rfl

theorem knownLine_turn (s : Session ε) (turn : Turn ε) :
    (s.turn turn).knownLine =
      if turn.notesCursor s.outline then (s.turn turn).cursorLine else s.knownLine := by
  cases turn with
  | perform step => exact s.knownLine_perform step
  | use editor => rfl

/-- The known line is where the cursor was when the session last took note of it. -/
theorem knownLine_play {s : Session ε} (h : s.knownLine = s.cursorLine) (turns : List (Turn ε)) :
    (s.play turns).knownLine =
      (s.play (turns.rdropWhile fun turn => !turn.notesCursor s.outline)).cursorLine := by
  induction turns using List.reverseRecOn with
  | nil => exact h
  | append_singleton turns last ih =>
      rw [play_concat, knownLine_turn, outline_play, List.rdropWhile_concat]
      cases last.notesCursor s.outline with
      | true => rw [if_pos rfl, if_neg (by decide), play_concat]
      | false => rw [if_neg (by decide), if_pos (by decide), ih]

end Session

/-- Following the cursor tells whether the user has moved it to another line since the session
last took note of it: since the latest activation, choice of an entry, or following of the
cursor, or else since the start. If so, the section around the cursor is selected, and
otherwise nothing changes. Right after a step that takes note there is nothing to tell. -/
theorem Session.followCursor_play {ε : Type} [Editor ε] (source : TaggedSource) (editor : ε)
    (options : Options) (turns : List (Turn ε)) :
    let first := start source editor options
    let s := first.play turns
    let noted := first.play (turns.rdropWhile fun turn => !turn.notesCursor first.outline)
    (s.perform .followCursor).1 = .flag (s.cursorLine != noted.cursorLine) ∧
      (s.perform .followCursor).2 =
        (if s.cursorLine = noted.cursorLine then s
        else { s with
          knownLine := s.cursorLine
          selection := s.outline.enclosing? s.cursorLine }) ∧
      ∀ step, SessionStep.notesCursor s.outline step = true →
        ((s.perform step).2.perform .followCursor).1 = .flag false := by
  intro first s noted
  have h_known : s.knownLine = noted.cursorLine := knownLine_play rfl turns
  refine ⟨?_, ?_, ?_⟩
  · show Answer.flag s.cursorMoved = _
    rw [cursorMoved, h_known]
  · show s.followCursor = _
    rw [followCursor, cursorMoved, h_known]
    by_cases h_line : s.cursorLine = noted.cursorLine
    · simp [h_line]
    · simp [h_line]
  · intro step h_notes
    have h_after := s.knownLine_perform step
    rw [if_pos h_notes] at h_after
    show Answer.flag (s.perform step).2.cursorMoved = _
    rw [cursorMoved, h_after, bne_self_eq_false]

/-- An activation far behind the text leaves the cursor of a code pane on the last line, which is
no move of the user's. A click on the first line is one. -/
theorem Session.followCursor_play_clamped :
    let first := start (TaggedSource.parse ⟨"M", by decide⟩ "M(\"A\");\nM(\"A/B\");\n")
      ({} : CodePane) { marker := "M" }
    let activation : SessionStep := .event (.activate ⟨"demo", 9, "A/B"⟩)
    let s := (first.perform activation).2
    let t := s.turn (.use (s.editor.click 1))
    activation.notesCursor first.outline = true ∧
      s.cursorLine = 2 ∧ (s.perform .followCursor).1 = .flag false ∧
      t.cursorLine = 1 ∧ (t.perform .followCursor).1 = .flag true ∧
      (t.perform .followCursor).2.selection = t.outline.enclosing? 1 := by
  intro first activation s t
  obtain ⟨-, -, h_noted⟩ := Session.followCursor_play
    (TaggedSource.parse ⟨"M", by decide⟩ "M(\"A\");\nM(\"A/B\");\n") ({} : CodePane)
    { marker := "M" } []
  obtain ⟨h_told, h_after, -⟩ := Session.followCursor_play
    (TaggedSource.parse ⟨"M", by decide⟩ "M(\"A\");\nM(\"A/B\");\n") ({} : CodePane)
    { marker := "M" } [.perform activation, .use (s.editor.click 1)]
  have h_last : s.cursorLine = 2 := by
    show (Editor.cursor (first.activate ⟨"demo", 9, "A/B"⟩).editor).line = 2
    rw [editor_activate]
    decide +kernel
  have h_click : t.cursorLine = 1 := rfl
  have h_moved : ¬ t.cursorLine = s.cursorLine := by
    rw [h_last, h_click]
    decide
  refine ⟨rfl, h_last, h_noted activation rfl, h_click, ?_, ?_⟩
  · exact h_told.trans (congrArg Answer.flag (bne_iff_ne.2 h_moved))
  · exact congrArg (·.selection) (h_after.trans (if_neg h_moved))

end Showcase
