import Showcase.Browser.Basic

/-!
# Frames of the browser

A frame draws everything once, from the menu bar to the readme, and in the course of it one
gesture may reach the widget it is meant for. What is drawn later in a frame sees what was
drawn before: the demo window reports before the code window is drawn, so an activation
opens the code window in the same frame. Only saving reaches outside, and what comes of it is
for the disk to say.
-/

namespace Showcase

/-- What the user does in the course of a frame. -/
inductive Gesture
  | idle
  | press (target : Target)
  /-- Types a text at the end of a text box and then erases its last characters. -/
  | type (target : Target) (text : String) (erase : Nat)
  /-- Sets the slider with an index to a value. -/
  | slide (index : Nat) (value : Decimal)
  deriving DecidableEq, Repr, Inhabited

/-- A frame in the making: the browser so far, and what came of it. -/
structure Frame where
  browser : Browser
  log : List LogEntry := []
  /-- The links that were opened. -/
  opened : List String := []
  /-- The texts that were written, each with its path. -/
  written : List (FilePath × String) := []

namespace Frame

/-- What typing at the end of a text box makes of its text. -/
def typed (text : String) (erase : Nat) (old : String) : String :=
  let cs := (old ++ text).toList
  String.ofList (cs.take (cs.length - erase))

def navigate (f : Frame) (change : Session CodePane → Session CodePane)
    (log : List LogEntry := []) : Frame :=
  { f with browser := { f.browser with session := change f.browser.session }, log := f.log ++ log }

def changeView (f : Frame) (change : OutlineView → OutlineView) : Frame :=
  f.navigate fun s => { s with view := change s.view }

def changePane (f : Frame) (change : CodePane → CodePane) (log : List LogEntry := []) : Frame :=
  f.navigate (fun s => { s with editor := change s.editor }) log

/-! ## The parts of a frame, in order -/

def menu (g : Gesture) (f : Frame) : Frame :=
  let b := f.browser
  match g with
  | .press .menuDemos =>
    { f with browser := { b with demos := { b.demos with isOpen := !b.demos.isOpen } } }
  | .press .menuCode => { f with browser := { b with codeOpen := !b.codeOpen } }
  | .press .menuReadme => { f with browser := { b with readmeOpen := !b.readmeOpen } }
  | _ => f

def demoAction (w : Gallery) : Gesture → DemoAction
  | .press (.section title) =>
    match w.tagOf? title with
    | some tag => .toggleSection tag
    | none => .nothing
  | .press (.comboItem label) =>
    match w.openList.findIdx? (· == label) with
    | some index => .pickItem index
    | none => .nothing
  | .press target =>
    match Browser.demoWidget? w target with
    | some p => p.widget.onPress
    | none => .nothing
  | .type (.demoText index) text erase =>
    match w.textBoxes[index]? with
    | some (box, _) => .editText box (typed text erase)
    | none => .nothing
  | .slide index value =>
    match w.sliders[index]? with
    | some (slider, _) => .slide slider value
    | none => .nothing
  | _ => .nothing

def report (f : Frame) : Report → Frame
  | .event e => f.navigate (·.handle e) (f.browser.session.handleLog e)
  | .note entry => { f with log := f.log ++ [entry] }

def demos (g : Gesture) (f : Frame) : Frame :=
  let w := f.browser.demos
  let pointer := f.browser.pointer.bind (Browser.sectionAt? w)
  let (w, reports) := w.draw pointer (demoAction w g)
  let w := if g = .press .closeDemos then { w with isOpen := false } else w
  reports.foldl report { f with browser := { f.browser with demos := w } }

/-- A request to bring the code to the front opens the code window. -/
def focus (f : Frame) : Frame :=
  let (requested, session) := f.browser.session.takeFocus
  { f with browser := { f.browser with session, codeOpen := f.browser.codeOpen || requested } }

def save (disk : Disk) (f : Frame) : Frame :=
  let pane := f.browser.session.editor
  match f.browser.session.options.savePath with
  | none => f
  | some path =>
    match disk.write path pane.text with
    | .ok () =>
      { f with written := f.written ++ [(path, pane.text)] }.changePane (·.perform (.save true))
        (pane.savedLog path.display)
    | .error reason =>
      f.changePane (·.perform (.save false))
        [⟨.error, s!"failed to save {path.display}: {reason}"⟩]

def toolbar (disk : Disk) (g : Gesture) (f : Frame) : Frame :=
  let s := f.browser.session
  match g with
  | .press .follow =>
    let enabled := !s.follow.enabled
    f.navigate (·.setFollowing enabled) (Session.setFollowingLog enabled)
  | .press .github =>
    { f with log := f.log ++ s.openLinkLog, opened := f.opened ++ [s.link] }
  | .press .edit => f.changePane fun p => p.perform (.setEditMode !p.editing)
  | .press .save => if f.browser.canSave then f.save disk else f
  | _ => f

/-- The search box and the buttons above the outline. -/
def searchBar (g : Gesture) (f : Frame) : Frame :=
  match g with
  | .type .search text erase => f.changeView fun v => v.filterBy (typed text erase v.filter)
  | .press .clearSearch => f.changeView (·.filterBy "")
  | .press .expandAll => f.changeView (·.expandAll f.browser.session.outline.toSections)
  | .press .collapseAll => f.changeView (·.collapseAll)
  | _ => f

/-- The rows of the outline, which take the request to scroll. -/
def outline (g : Gesture) (f : Frame) : Frame :=
  if f.browser.session.outline.size = 0 then f
  else
    let f := f.changeView fun v => v.takeScroll.2
    let rows := f.browser.rows
    match g with
    | .press (.rowToggle index) =>
      match rows[index]? with
      | some row => if row.hasChildren then f.changeView (·.toggle row.id) else f
      | none => f
    | .press (.row index) =>
      match rows[index]? with
      | some row => f.navigate (·.select row.id) (f.browser.session.selectLog row.id)
      | none => f
    | _ => f

def code (g : Gesture) (f : Frame) : Frame :=
  let pane := f.browser.session.editor
  let f := f.changePane (·.perform .draw)
  match g with
  | .type .editor text erase =>
    if text ≠ "" || erase ≠ 0 then
      f.changePane fun p => p.perform (.edit (typed text erase p.text))
    else f
  | .press (.line number) =>
    if pane.displays number then
      (f.changePane (·.perform (.click number))).navigate (·.followCursor)
    else f
  | _ => f

def codeWindow (disk : Disk) (g : Gesture) (f : Frame) : Frame :=
  let f := f.focus
  if f.browser.codeOpen then
    let f := (((f.toolbar disk g).searchBar g).outline g).code g
    if g = .press .closeCode then { f with browser := { f.browser with codeOpen := false } } else f
  else f

def readme (g : Gesture) (f : Frame) : Frame :=
  if g = .press .closeReadme then
    { f with browser := { f.browser with readmeOpen := false } }
  else f

end Frame

namespace Browser

def frame (b : Browser) (disk : Disk) (g : Gesture) : Frame :=
  ((((Frame.mk b [] [] []).menu g).demos g).codeWindow disk g).readme g

end Browser

end Showcase
