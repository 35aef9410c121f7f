import Showcase.Demo.Gallery
import Showcase.Editor.CodePane
import Showcase.Session.Basic

/-!
# The browser

The browser has three windows: the demos, their code, and a readme. The code window holds
a toolbar, the outline with its search box, and the code pane. The session ties them
together: what the demo window reports goes to the session, and the session's requests open
the code window and scroll it.
-/

namespace Showcase

/-- A widget of the browser that can be pressed, typed into or pointed at. -/
inductive Target
  | menuDemos
  | menuCode
  | menuReadme
  /-- The header of the demo section with a title. -/
  | section (title : String)
  /-- The code button of the demo section with a title. -/
  | sectionCode (title : String)
  | closeDemos
  | demoButton (label : String)
  | demoCheckbox (label : String)
  | demoRadio (label : String)
  | demoLabel (label : String)
  | demoCombo
  | comboItem (label : String)
  | demoText (index : Nat)
  | demoSlider (index : Nat)
  | help
  | follow
  | github
  | edit
  | save
  | search
  | clearSearch
  | expandAll
  | collapseAll
  | row (index : Nat)
  | rowToggle (index : Nat)
  | editor
  | line (number : Nat)
  | closeCode
  | closeReadme
  deriving DecidableEq, Repr, Inhabited

/-- The state of the browser. -/
structure Browser where
  session : Session CodePane
  demos : Gallery := {}
  codeOpen : Bool := true
  readme : String
  readmeOpen : Bool := false
  pointer : Option Target := none

namespace Browser

/-- A browser over a session, with the markers of its source highlighted. -/
def ofSession (session : Session CodePane) (readme : String) : Browser :=
  let lines := session.source.tags.map (·.line)
  { session := { session with editor := session.editor.highlight lines }, readme }

def rows (b : Browser) : List OutlineRow :=
  b.session.view.rows b.session.outline.toSections

def canSave (b : Browser) : Bool :=
  b.session.options.savePath.isSome && b.session.editor.dirty

/-- What a widget of the demo window shows when `target` names it. -/
def demoWidget? (w : Gallery) : Target → Option PlacedWidget
  | .sectionCode title =>
    (w.tagOf? title).bind fun tag =>
      w.placed.find? fun p => p.tag = some tag && p.widget.face = .button "Code"
  | .demoButton label => w.find? (· == .button label)
  | .demoCheckbox label => w.find? fun f => f == .checkbox label true || f == .checkbox label false
  | .demoRadio label => w.find? fun f => f == .radio label true || f == .radio label false
  | .demoLabel label =>
    w.find? fun
      | .label text => text == label
      | .slider _ text => text == label
      | _ => false
  | .demoCombo =>
    w.find? fun
      | .combo _ => true
      | _ => false
  | .demoText index => (w.textBoxes[index]?).map Prod.snd
  | .demoSlider index => (w.sliders[index]?).map Prod.snd
  | _ => none

/-- Whether a frame that draws the browser like this shows a widget. -/
def shows (b : Browser) : Target → Bool
  | .menuDemos => true
  | .menuCode => true
  | .menuReadme => true
  | .section title => (b.demos.tagOf? title).isSome
  | .closeDemos => b.demos.isOpen
  | .comboItem label => label ∈ b.demos.openList
  | .row index => b.codeOpen && index < b.rows.length
  | .rowToggle index => b.codeOpen && (b.rows[index]?).any (·.hasChildren)
  | .editor => b.codeOpen && b.session.editor.editing
  | .line number => b.codeOpen && b.session.editor.displays number
  | .help => b.codeOpen
  | .follow => b.codeOpen
  | .github => b.codeOpen
  | .edit => b.codeOpen
  | .save => b.codeOpen
  | .search => b.codeOpen
  | .clearSearch => b.codeOpen
  | .expandAll => b.codeOpen
  | .collapseAll => b.codeOpen
  | .closeCode => b.codeOpen
  | .closeReadme => b.readmeOpen
  | target => (demoWidget? b.demos target).isSome

def sectionAt? (w : Gallery) : Target → Option String
  | .section title => w.tagOf? title
  | target => (demoWidget? w target).bind (·.tag)

/-- The lines of the tooltip of a widget. An open list hides the tooltips of its window. -/
def tooltip (b : Browser) (target : Target) : List String :=
  if !b.shows target then []
  else
    match target with
    | .help =>
      ["Browse the widget demos and their code.\n\n" ++
        "Press \"Code\" on a demo section to jump to its source.\n" ++
        "With \"Follow mouse\" on, the table of contents tracks the section under the mouse.\n" ++
        "Click a table of contents entry or a line to move the cursor."]
    | .follow => ["Track the demo section under the mouse"]
    | .github => [b.session.link]
    | .clearSearch => ["Clear search"]
    | .row index =>
      match (b.rows[index]?).bind fun row => b.session.outline.get? row.id with
      | some node => [s!"{node.path} (line {node.line})"]
      | none => []
    | target =>
      if !b.demos.openList.isEmpty then []
      else
        match demoWidget? b.demos target with
        | some p => p.widget.tooltip
        | none => []

end Browser

end Showcase
