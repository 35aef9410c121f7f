import Showcase.Browser.Basic
import Showcase.Session.Step

/-!
# Looking at the browser

What the windows show after a frame, told widget by widget.
-/

namespace Showcase

/-- A part of the browser that can be looked at. -/
inductive Part
  | rows
  | search
  | toolbar
  | demos
  | combo
  | popup
  deriving DecidableEq, Repr, Inhabited

/-- What is seen; `none` if the window is closed or the widget is not drawn. -/
inductive Sight
  /-- The rows of the outline: for a row with children whether it is open, and the title. -/
  | rows (rows : Option (List (Option Bool × String)))
  | text (text : Option String)
  | widgets (faces : Option (List WidgetFace))
  deriving DecidableEq, Repr, Inhabited

namespace Browser

def rowSight (b : Browser) (row : OutlineRow) : Option Bool × String :=
  (if row.hasChildren then some row.isOpen else none,
    ((b.session.outline.get? row.id).map (·.title)).getD "")

def toolbarSight (b : Browser) : List WidgetFace :=
  let s := b.session
  [.label "(?)", .checkbox "Follow mouse" s.follow.enabled, .label s!"Line {s.cursorLine}"] ++
    (s.selected?.toList.map fun node => .label node.path) ++
    [.button "View on GitHub", .button "Edit", .button "Save"]

def look (b : Browser) : Part → Sight
  | .rows => .rows (if b.codeOpen then some (b.rows.map b.rowSight) else none)
  | .search => .text (if b.codeOpen then some b.session.view.filter else none)
  | .toolbar => .widgets (if b.codeOpen then some b.toolbarSight else none)
  | .demos =>
    .widgets (if b.demos.isOpen then some (b.demos.placed.map (·.widget.face)) else none)
  | .combo => .text (if b.demos.showsBody .combo then some b.demos.values.comboText else none)
  | .popup =>
    .widgets <| some <|
      b.demos.openList.map WidgetFace.button ++
        (b.pointer.toList.flatMap b.tooltip).map WidgetFace.label

def describe (b : Browser) : String :=
  s!"DemoBrowser \x7b controller: RefCell \x7b value: {b.session.describe} \x7d, " ++
    s!"show_code: {b.codeOpen}, .. \x7d"

def describeReadme (b : Browser) : String :=
  s!"ReadmeWindow \x7b bytes: {b.readme.utf8ByteSize}, open: {b.readmeOpen}, .. \x7d"

end Browser

end Showcase
