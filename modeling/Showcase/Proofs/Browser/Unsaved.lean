import Showcase.Browser.Step
import Showcase.Proofs.Editor.Clean

/-!
# Unsaved edits in the browser

A text that was edited can be saved if there is a path to save it under. It stays so until the
edit is written or the text is replaced: of all that a frame draws only the save button and the
text box touch the text and its marks, and a text that could not be written stays where it is.
Whether a text can be written is for the disk to say, which every step finds as it is by then.

`Browser.draft` is what this is about, the text in the pane and what decides whether it can be
saved. Every part of a frame has a lemma on it, a step of the browser comes to `DraftAfter` of its
gesture, and the save button to `Draft.saved` if the code window is open.
-/

namespace Showcase

open PaneMoment (lastSettled sinceSettled)

/-- The text of a code pane, with what decides whether it can be saved. -/
structure Draft where
  savePath : Option FilePath
  text : String
  /-- Whether the text was edited since it was last set or saved. -/
  dirty : Bool

def Draft.canSave (d : Draft) : Bool :=
  d.savePath.isSome && d.dirty

namespace Session

def draft (s : Session CodePane) : Draft :=
  ⟨s.options.savePath, s.editor.text, s.editor.dirty⟩

variable (s : Session CodePane)

theorem draft_selectAround (line : Nat) : (s.selectAround line).draft = s.draft := by
  rw [selectAround]
  split
  · rfl
  · rfl

theorem draft_handle (event : SectionEvent) : (s.handle event).draft = s.draft := by
  cases event with
  | activate site =>
      rw [handle, activate, draft_selectAround]
      rfl
  | hover site =>
      rw [handle, hover]
      split
      · rw [draft_selectAround]
        rfl
      · rfl

theorem draft_select (id : NodeId) : (s.select id).draft = s.draft := by
  rw [select]
  split
  · rfl
  · rfl

theorem draft_followCursor : s.followCursor.draft = s.draft := by
  rw [followCursor]
  split
  · rfl
  · rfl

/-- A step of the session leaves the draft alone, unless it replaces the text. -/
theorem draft_perform {step : SessionStep} (h : ∀ text, step ≠ .replaceText text) :
    (s.perform step).2.draft = s.draft := by
  cases step with
  | event e => exact s.draft_handle e
  | select id => exact s.draft_select id
  | selectPath path =>
      rw [perform]
      split
      · exact s.draft_select _
      · rfl
  | followCursor => exact s.draft_followCursor
  | replaceText text => exact absurd rfl (h text)
  | _ => rfl

end Session

def Browser.draft (b : Browser) : Draft :=
  b.session.draft

theorem Browser.canSave_eq (b : Browser) : b.canSave = b.draft.canSave := rfl

namespace Draft

/-- Whether the disk takes the text under its path. -/
def Writes (d : Draft) (disk : Disk) : Prop :=
  ∃ path, d.savePath = some path ∧ disk.write path d.text = .ok ()

/-- The draft once its text has been written, if it could be. -/
def saved (d : Draft) (disk : Disk) : Draft :=
  match d.savePath.map (disk.write · d.text) with
  | some (.ok ()) => { d with dirty := false }
  | _ => d

variable {d : Draft} {disk : Disk} {path : FilePath}

theorem saved_of_error {reason : String} (h_path : d.savePath = some path)
    (h_write : disk.write path d.text = .error reason) : d.saved disk = d := by
  rw [saved, h_path, Option.map_some, h_write]

theorem saved_of_ok (h_path : d.savePath = some path) (h_write : disk.write path d.text = .ok ()) :
    d.saved disk = { d with dirty := false } := by
  rw [saved, h_path, Option.map_some, h_write]

/-- A text that was not edited is not saved. -/
theorem not_canSave_of_clean (h : d.dirty = false) : ¬ d.canSave = true := by
  rw [canSave, h, Bool.and_false]
  exact Bool.false_ne_true

/-- What could be saved can be saved again unless it was written. -/
theorem canSave_saved_iff (h : d.canSave = true) :
    (d.saved disk).canSave = true ↔ ¬ d.Writes disk := by
  obtain ⟨path, h_path⟩ := Option.isSome_iff_exists.1 (Bool.and_eq_true_iff.1 h).1
  cases h_write : disk.write path d.text with
  | error reason =>
      rw [saved_of_error h_path h_write]
      refine iff_of_true h ?_
      rintro ⟨other, h_other, h_ok⟩
      rw [h_path, Option.some_inj] at h_other
      rw [← h_other, h_write] at h_ok
      cases h_ok
  | ok =>
      rw [saved_of_ok h_path h_write]
      exact iff_of_false (not_canSave_of_clean rfl) (not_not.2 ⟨path, h_path, h_write⟩)

end Draft

/-- What the draft `before` a gesture may have become after it. -/
inductive DraftAfter (before : Draft) : Gesture → Draft → Prop
  | kept (g : Gesture) : DraftAfter before g before
  | edited (typed : String) (erase : Nat) (text : String) :
    DraftAfter before (.type .editor typed erase) { before with text, dirty := true }

theorem DraftAfter.canSave {before after : Draft} {g : Gesture}
    (h : DraftAfter before g after) (h_before : before.canSave = true) :
    after.canSave = true := by
  cases h with
  | kept => exact h_before
  | edited typed erase text =>
      rw [Draft.canSave, Bool.and_true]
      exact (Bool.and_eq_true_iff.1 h_before).1

/-! ## The parts of a frame -/

namespace Frame

variable (f : Frame) (disk : Disk) (g : Gesture)

theorem draft_navigate {change : Session CodePane → Session CodePane}
    (h : ∀ s, (change s).draft = s.draft) (log : List LogEntry) :
    (f.navigate change log).browser.draft = f.browser.draft :=
  h f.browser.session

/-- A step of the pane that neither edits nor settles the text leaves the draft alone. -/
theorem draft_changePane {step : PaneStep} (h_settle : step.settlesText = false)
    (h_edit : ∀ p, PaneMoment.edits ⟨p, step⟩ = false) :
    (f.changePane (·.perform step)).browser.draft = f.browser.draft := by
  refine f.draft_navigate (fun s => ?_) []
  have h_none : PaneMoment.settled? ⟨s.editor, step⟩ = none := by
    rw [← Option.isNone_iff_eq_none, ← Option.isSome_eq_false_iff, PaneMoment.isSome_settled?]
    exact h_settle
  show Draft.mk _ (s.editor.perform step).text (s.editor.perform step).dirty = s.draft
  rw [CodePane.text_perform_of_not_edits (h_edit _), CodePane.dirty_perform, h_settle,
    h_edit, h_none, Bool.or_false]
  rfl

theorem draft_menu : (f.menu g).browser.draft = f.browser.draft := by
  unfold menu
  split
  · rfl
  · rfl
  · rfl
  · rfl

theorem draft_foldl_report (reports : List Report) :
    (reports.foldl report f).browser.draft = f.browser.draft := by
  induction reports generalizing f with
  | nil => rfl
  | cons r reports ih =>
      rw [List.foldl_cons, ih]
      cases r with
      | event e => exact f.draft_navigate (fun s => s.draft_handle e) _
      | note entry => rfl

theorem draft_demos : (f.demos g).browser.draft = f.browser.draft :=
  draft_foldl_report _ _

theorem draft_focus : f.focus.browser.draft = f.browser.draft := rfl

theorem draft_toolbar {g : Gesture} (h : g ≠ .press .save) :
    (f.toolbar disk g).browser.draft = f.browser.draft := by
  unfold toolbar
  split
  · rfl
  · rfl
  · rfl
  · exact absurd rfl h
  · rfl

theorem draft_searchBar : (f.searchBar g).browser.draft = f.browser.draft := by
  unfold searchBar
  split
  · rfl
  · rfl
  · rfl
  · rfl
  · rfl

theorem draft_outline : (f.outline g).browser.draft = f.browser.draft := by
  unfold outline
  split
  · rfl
  · dsimp only
    split
    · -- a row is opened or closed, if it is there and has children
      split
      · split
        · rfl
        · rfl
      · rfl
    · -- a row is chosen
      split
      · exact draft_navigate _ (fun s => s.draft_select _) _
      · rfl
    · rfl

theorem draft_draw : (f.changePane (·.perform .draw)).browser.draft = f.browser.draft :=
  f.draft_changePane rfl fun _ => rfl

theorem draft_code {g : Gesture} (h : ∀ typed erase, g ≠ .type .editor typed erase) :
    (f.code g).browser.draft = f.browser.draft := by
  unfold code
  dsimp only
  split
  · exact absurd rfl (h _ _)
  · split
    · rw [draft_navigate _ fun s => s.draft_followCursor, draft_changePane _ rfl fun _ => rfl,
        draft_draw]
    · exact f.draft_draw
  · exact f.draft_draw

theorem draftAfter_edit (text : String) (erase : Nat) :
    DraftAfter f.browser.draft (.type .editor text erase)
      (f.changePane fun p => p.perform (.edit (typed text erase p.text))).browser.draft := by
  show DraftAfter f.browser.draft _ ⟨f.browser.session.options.savePath,
    (f.browser.session.editor.perform _).text, (f.browser.session.editor.perform _).dirty⟩
  rw [CodePane.perform]
  split
  · exact .edited text erase _
  · exact .kept _

/-- Of all gestures only typing into the text box counts for the code. -/
theorem draftAfter_code : DraftAfter f.browser.draft g (f.code g).browser.draft := by
  by_cases h : ∃ text erase, g = .type .editor text erase
  · obtain ⟨text, erase, rfl⟩ := h
    unfold code
    dsimp only
    split
    · rw [← draft_draw]
      exact draftAfter_edit _ text erase
    · rw [draft_draw]
      exact .kept _
  · rw [draft_code _ fun text erase h_type => h ⟨text, erase, h_type⟩]
    exact .kept g

/-- A text that could not be written leaves everything as it is, and is reported. -/
theorem save_of_error {disk : Disk} {path : FilePath} {reason : String}
    (h_path : f.browser.session.options.savePath = some path)
    (h_write : disk.write path f.browser.session.editor.text = .error reason) :
    f.save disk =
      { f with
        log := f.log ++ [⟨.error, s!"failed to save {path.display}: {reason}"⟩] } := by
  rw [save]
  simp only [h_path, h_write]
  rfl

theorem draft_save : (f.save disk).browser.draft = f.browser.draft.saved disk := by
  have h_draft : f.browser.draft.savePath = f.browser.session.options.savePath := rfl
  cases h_path : f.browser.session.options.savePath with
  | none =>
      rw [save, Draft.saved, h_draft]
      simp only [h_path]
      rfl
  | some path =>
      have h_same : disk.write path f.browser.draft.text =
          disk.write path f.browser.session.editor.text := rfl
      cases h_write : disk.write path f.browser.session.editor.text with
      | error reason =>
          rw [f.save_of_error h_path h_write,
            Draft.saved_of_error (h_draft.trans h_path) (h_same.trans h_write)]
      | ok =>
          rw [save, Draft.saved_of_ok (h_draft.trans h_path) (h_same.trans h_write)]
          simp only [h_path, h_write]
          rfl

theorem codeOpen_save : (f.save disk).browser.codeOpen = f.browser.codeOpen := by
  unfold save
  dsimp only
  split
  · rfl
  · split
    · rfl
    · rfl

/-- What is drawn in the code window. -/
def contents (disk : Disk) (g : Gesture) (f : Frame) : Frame :=
  (((f.toolbar disk g).searchBar g).outline g).code g

theorem codeWindow_eq :
    f.codeWindow disk g =
      if f.focus.browser.codeOpen then
        if g = .press .closeCode then
          let f := f.focus.contents disk g
          { f with browser := { f.browser with codeOpen := false } }
        else f.focus.contents disk g
      else f.focus := rfl

theorem draftAfter_contents {g : Gesture} (h : g ≠ .press .save) :
    DraftAfter f.browser.draft g (f.contents disk g).browser.draft := by
  have h_before : (((f.toolbar disk g).searchBar g).outline g).browser.draft =
      f.browser.draft := by
    rw [draft_outline, draft_searchBar, draft_toolbar _ _ h]
  rw [← h_before]
  exact draftAfter_code _ g

theorem draft_contents_save (h : f.browser.canSave = true) :
    (f.contents disk (.press .save)).browser.draft = f.browser.draft.saved disk := by
  have h_toolbar : f.toolbar disk (.press .save) = f.save disk := if_pos h
  have h_press : ∀ text erase, Gesture.press .save ≠ .type .editor text erase := by
    intro text erase h_type
    cases h_type
  rw [contents, draft_code _ h_press, draft_outline, draft_searchBar, h_toolbar, draft_save]

theorem codeOpen_contents_save (h : f.browser.canSave = true) :
    (f.contents disk (.press .save)).browser.codeOpen = f.browser.codeOpen := by
  have h_toolbar : f.toolbar disk (.press .save) = f.save disk := if_pos h
  show (Frame.outline (.press .save) (f.toolbar disk (.press .save))).browser.codeOpen = _
  rw [h_toolbar, outline]
  split
  · exact f.codeOpen_save disk
  · exact f.codeOpen_save disk

theorem draftAfter_codeWindow {g : Gesture} (h : g ≠ .press .save) :
    DraftAfter f.browser.draft g (f.codeWindow disk g).browser.draft := by
  rw [codeWindow_eq, ← f.draft_focus]
  split
  · split
    · exact f.focus.draftAfter_contents disk h
    · exact f.focus.draftAfter_contents disk h
  · exact .kept g

/-- The save button saves if the code window is open, which it then stays. -/
theorem draft_codeWindow_save (h : f.browser.canSave = true) :
    (f.codeWindow disk (.press .save)).browser.draft =
      if (f.codeWindow disk (.press .save)).browser.codeOpen then f.browser.draft.saved disk
      else f.browser.draft := by
  have h_focus : f.focus.browser.canSave = true := h
  have h_other : Gesture.press .save ≠ .press .closeCode := by decide
  rw [codeWindow_eq, if_neg h_other, ← f.draft_focus]
  by_cases h_open : f.focus.browser.codeOpen = true
  · rw [if_pos h_open, draft_contents_save _ _ h_focus, codeOpen_contents_save _ _ h_focus,
      if_pos h_open]
  · rw [if_neg h_open, if_neg h_open]

theorem readme_of_ne {g : Gesture} (h : g ≠ .press .closeReadme) : f.readme g = f :=
  if_neg h

theorem draft_readme : (f.readme g).browser.draft = f.browser.draft := by
  rw [readme]
  split
  · rfl
  · rfl

end Frame

namespace Browser

variable (b : Browser) (disk : Disk)

/-- The code window finds the draft as it was. -/
theorem draft_demos_menu (g : Gesture) :
    (((Frame.mk b [] [] []).menu g).demos g).browser.draft = b.draft := by
  rw [Frame.draft_demos, Frame.draft_menu]

theorem draftAfter_frame {g : Gesture} (h : g ≠ .press .save) :
    DraftAfter b.draft g (b.frame disk g).browser.draft := by
  rw [frame, Frame.draft_readme, ← b.draft_demos_menu g]
  exact Frame.draftAfter_codeWindow _ disk h

theorem draft_frame_idle : (b.frame disk .idle).browser.draft = b.draft := by
  have h : DraftAfter b.draft .idle (b.frame disk .idle).browser.draft :=
    b.draftAfter_frame disk fun h_save => by cases h_save
  generalize (b.frame disk .idle).browser.draft = d at h
  cases h with
  | kept => rfl

theorem draft_frame_save (h : b.canSave = true) :
    (b.frame disk (.press .save)).browser.draft =
      if (b.frame disk (.press .save)).browser.codeOpen then b.draft.saved disk else b.draft := by
  have h_before := b.draft_demos_menu (.press .save)
  have h_window := Frame.draft_codeWindow_save
    (((Frame.mk b [] [] []).menu (.press .save)).demos (.press .save)) disk
    (by rw [canSave_eq, h_before]; exact h)
  rw [frame, Frame.readme_of_ne _ (by decide), h_window, h_before]

end Browser

/-! ## Steps of the browser -/

/-- What the user does in a step, apart from moving the pointer. -/
def BrowserStep.gesture : BrowserStep → Gesture
  | press target => .press target
  | type target text erase => .type target text erase
  | slide index value => .slide index value
  | _ => .idle

namespace Browser

variable (b : Browser) (disk : Disk)

theorem draft_draw_idle (p : Progress) : (p.draw disk).2.browser.draft = p.browser.draft :=
  p.browser.draft_frame_idle disk

theorem draft_moveTo (p : Progress) (pointer : Option Target) :
    (p.moveTo disk pointer).browser.draft = p.browser.draft :=
  draft_frame_idle _ disk

theorem draftAfter_attempt {g : Gesture} {target : Target}
    {act : Progress → BrowserAnswer × Progress}
    (h : ∀ p, DraftAfter p.browser.draft g (act p).2.browser.draft) :
    DraftAfter b.draft g (b.attempt disk target act).2.browser.draft := by
  rw [← b.draft_frame_idle disk]
  unfold attempt
  dsimp only
  split
  · exact h ((Progress.mk b [] []).draw disk).2
  · exact .kept g

/-- A step leaves the draft as its gesture does, unless it gives the session another text or
presses the save button. -/
theorem draftAfter_perform {step : BrowserStep}
    (h_text : ∀ text, step ≠ .session (.replaceText text)) (h_save : step ≠ .press .save) :
    DraftAfter b.draft step.gesture (b.perform disk step).2.browser.draft := by
  cases step with
  | session step =>
      have h_step : (b.perform disk (.session step)).2.browser.draft = b.draft :=
        b.session.draft_perform fun text h => h_text text (congrArg _ h)
      rw [h_step]
      exact .kept _
  | press target =>
      refine b.draftAfter_attempt disk fun p => p.browser.draftAfter_frame disk fun h => h_save ?_
      rw [Gesture.press.inj h]
  | type target text erase =>
      refine b.draftAfter_attempt disk fun p => ?_
      rw [← draft_draw_idle disk]
      exact (p.draw disk).2.browser.draftAfter_frame disk fun h => by cases h
  | slide index value =>
      exact b.draftAfter_attempt disk fun p => p.browser.draftAfter_frame disk fun h => by cases h
  | point title =>
      cases title with
      | none =>
          show DraftAfter b.draft _
            (((Progress.mk b [] []).draw disk).2.moveTo disk none).browser.draft
          rw [draft_moveTo, draft_draw_idle]
          exact .kept _
      | some title =>
          refine b.draftAfter_attempt disk fun p => ?_
          rw [draft_moveTo]
          exact .kept _
  | pointAt target =>
      refine b.draftAfter_attempt disk fun p => ?_
      rw [draft_draw_idle, draft_moveTo]
      exact .kept _
  | frame => exact b.draftAfter_frame disk fun h => by cases h
  | look part => exact b.draftAfter_frame disk fun h => by cases h
  | _ => exact .kept _

theorem draft_press_save (h : b.canSave = true) :
    (b.perform disk (.press .save)).2.browser.draft =
      if (b.perform disk (.press .save)).2.browser.codeOpen then b.draft.saved disk
      else b.draft := by
  have h_idle : (b.frame disk .idle).browser.canSave = true := by
    rw [canSave_eq, draft_frame_idle]
    exact h
  rw [← b.draft_frame_idle disk]
  show (b.attempt disk .save _).2.browser.draft =
    if (b.attempt disk .save _).2.browser.codeOpen then _ else _
  unfold attempt
  dsimp only
  split
  · exact (b.frame disk .idle).browser.draft_frame_save disk h_idle
  · rename_i h_hidden
    exact (if_neg h_hidden).symm

end Browser

/-! ## Runs of the browser -/

/-- A browser, a step that is performed on it, and the disk by then. -/
structure BrowserMoment where
  before : Browser
  disk : Disk
  step : BrowserStep

namespace BrowserMoment

def after (m : BrowserMoment) : Browser :=
  (m.before.perform m.disk m.step).2.browser

/-- Whether the step replaces the text, or writes it: then the save button is pressed in an open
code window, and the disk takes the text. -/
def SettlesText (m : BrowserMoment) : Prop :=
  (∃ text, m.step = .session (.replaceText text)) ∨
    m.step = .press .save ∧ m.after.codeOpen = true ∧ m.before.draft.Writes m.disk

/-- What can be saved stays so in a step, unless the step settles the text. -/
theorem canSave_after_iff {m : BrowserMoment} (h : m.before.canSave = true) :
    m.after.canSave = true ↔ ¬ m.SettlesText := by
  obtain ⟨b, disk, step⟩ := m
  by_cases h_text : ∃ text, step = .session (.replaceText text)
  · refine iff_of_false ?_ (not_not.2 (.inl h_text))
    obtain ⟨text, rfl⟩ := h_text
    rw [Browser.canSave_eq]
    exact Draft.not_canSave_of_clean rfl
  · rw [SettlesText, or_iff_right h_text]
    by_cases h_save : step = .press .save
    · subst h_save
      have h_draft := b.draft_press_save disk h
      rw [and_iff_right rfl, after, Browser.canSave_eq, h_draft]
      by_cases h_open : (b.perform disk (.press .save)).2.browser.codeOpen = true
      · rw [and_iff_right h_open, if_pos h_open]
        exact Draft.canSave_saved_iff h
      · rw [if_neg h_open]
        exact iff_of_true h fun h_both => h_open h_both.1
    · have h_after := b.draftAfter_perform disk (fun text h_eq => h_text ⟨text, h_eq⟩) h_save
      refine iff_of_true (h_after.canSave h) fun h_both => h_save h_both.1

end BrowserMoment

namespace Browser

/-- The steps of a run, each with the browser that it is performed on and the disk by then. -/
def trace (b : Browser) : List (Disk × BrowserStep) → List BrowserMoment
  | [] => []
  | (disk, step) :: steps => ⟨b, disk, step⟩ :: (b.perform disk step).2.browser.trace steps

/-- What can be saved stays so in all of a run, unless a step settles the text. -/
theorem canSave_trace_iff {b : Browser} (h : b.canSave = true)
    (steps : List (Disk × BrowserStep)) :
    (∀ m ∈ b.trace steps, m.after.canSave = true) ↔ ∀ m ∈ b.trace steps, ¬ m.SettlesText := by
  induction steps generalizing b with
  | nil => exact iff_of_true (by simp [trace]) (by simp [trace])
  | cons turn steps ih =>
      obtain ⟨disk, step⟩ := turn
      rw [trace, List.forall_mem_cons, List.forall_mem_cons]
      have h_step := BrowserMoment.canSave_after_iff (m := ⟨b, disk, step⟩) h
      rw [← h_step]
      exact and_congr_right fun h_after => ih h_after

end Browser

/-- Steps in which a text is edited and written. -/
def editAndSave : List PaneStep :=
  [.replaceText "a", .setEditMode true, .edit "b", .save true]

/-- A browser whose text was edited again after it had been written. -/
def unsavedBrowser : Browser where
  session :=
    { Session.start (TaggedSource.parse ⟨"M", by decide⟩ "a") ({} : CodePane)
        { marker := "M", savePath := some (.ofText "a.rs") } with
      editor := CodePane.run {} (editAndSave ++ [.edit "c"]) }
  readme := ""

def fullDisk : Disk where
  write _ _ := .error "No space left on device (os error 28)"

def emptyDisk : Disk where
  write _ _ := .ok ()

end Showcase
