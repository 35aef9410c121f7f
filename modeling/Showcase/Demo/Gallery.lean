import Showcase.Bridge
import Showcase.Demo.Pass
import Showcase.Demo.Widget

/-!
# The gallery

The gallery is the window that draws the demo sections. A section shows its header, which
is its title and a button for its code, and when it is open also what it holds. All
sections start closed. A section stays open inside a closed one, but it is only drawn if
all around it are open.
-/

namespace Showcase

/-- A widget and the section that it is drawn in. -/
structure PlacedWidget where
  tag : Option String
  widget : Widget

/-- The window of the demo sections. -/
structure Gallery where
  values : DemoValues := {}
  isOpen : Bool := true
  openSections : List String := []
  /-- The open children of the tree section. -/
  openChildren : List Nat := []
  /-- Whether the list of the combo box is open. -/
  comboOpen : Bool := false
  /-- Whether a section was hovered in the last pass. -/
  hoverClaimed : Bool := false

namespace Gallery

def isSectionOpen (w : Gallery) (tag : String) : Bool :=
  tag ∈ w.openSections

mutual

/-- The widgets of a section and of the sections inside it, as far as they are drawn. -/
def placedIn (w : Gallery) : DemoSection → List PlacedWidget
  | .mk tag body inner =>
    let place (widget : Widget) : PlacedWidget := ⟨some tag, widget⟩
    place (.label (Text.lastSegment tag)) ::
      place
        { face := .button "Code", onPress := .showCode tag
          tooltip := ["Show the code of this demo"] } ::
      if w.isSectionOpen tag then
        (Widget.ofBody w.values w.openChildren body).map place ++ placedInAll w inner
      else []

/-- The widgets of sections, as far as they are drawn. -/
def placedInAll (w : Gallery) : List DemoSection → List PlacedWidget
  | [] => []
  | s :: rest => placedIn w s ++ placedInAll w rest

end

def placed (w : Gallery) : List PlacedWidget :=
  if w.isOpen then
    ⟨none, .label "Hover a section with \"Follow mouse\" enabled, or press its Code button."⟩ ::
      w.placedInAll DemoSection.catalogue
  else []

mutual

/-- The tag and the body of a section, and of the sections inside it, as far as they are
drawn; no body for a closed section. -/
def drawnIn (w : Gallery) : DemoSection → List (String × Option SectionBody)
  | .mk tag body inner =>
    if w.isSectionOpen tag then (tag, some body) :: drawnInAll w inner else [(tag, none)]

/-- The tags and bodies of sections, as far as they are drawn. -/
def drawnInAll (w : Gallery) : List DemoSection → List (String × Option SectionBody)
  | [] => []
  | s :: rest => drawnIn w s ++ drawnInAll w rest

end

def drawnSections (w : Gallery) : List (String × Option SectionBody) :=
  if w.isOpen then w.drawnInAll DemoSection.catalogue else []

def showsBody (w : Gallery) (body : SectionBody) : Bool :=
  w.drawnSections.any fun (_, shown) => shown == some body

/-- The tag of the first section drawn under a title. -/
def tagOf? (w : Gallery) (title : String) : Option String :=
  (w.drawnSections.map Prod.fst).find? fun tag => Text.lastSegment tag == title

def find? (w : Gallery) (face : WidgetFace → Bool) : Option PlacedWidget :=
  w.placed.find? fun p => face p.widget.face

def sliders (w : Gallery) : List (Slider × PlacedWidget) :=
  w.placed.filterMap fun p =>
    match p.widget.face with
    | .slider s _ => some (s, p)
    | _ => none

def textBoxes (w : Gallery) : List (TextBox × PlacedWidget) :=
  w.placed.filterMap fun p =>
    match p.widget.face with
    | .textBox b => some (b, p)
    | _ => none

def flip {α : Type} [DecidableEq α] (xs : List α) (x : α) : List α :=
  if x ∈ xs then xs.filter (· ≠ x) else x :: xs

def apply (w : Gallery) : DemoAction → Gallery
  | .nothing => w
  | .click => { w with values := { w.values with clicks := w.values.clicks + 1 } }
  | .toggleChecked => { w with values := { w.values with checked := !w.values.checked } }
  | .pick fruit => { w with values := { w.values with fruit } }
  | .openCombo => { w with comboOpen := true }
  | .pickItem index => { w with values := { w.values with comboIndex := index } }
  | .slide slider value => { w with values := w.values.setSlider value slider }
  | .editText box edit => { w with values := w.values.editText edit box }
  | .toggleChild index => { w with openChildren := flip w.openChildren index }
  | .clickChild _ => w
  | .sortBy column => { w with values := w.values.sortBy column }
  | .toggleSection tag => { w with openSections := flip w.openSections tag }
  | .showCode _ => w

/-- What the widgets of a section report about an action. -/
def notes (tag : String) : DemoAction → List LogEntry
  | .clickChild index =>
    if tag = "Widgets/Trees" then [⟨.info, s!"tree child {index} clicked"⟩] else []
  | _ => []

/-- Whether an action asks for the code of a section. -/
def asksForCode (tag : String) : DemoAction → Bool
  | .showCode t => t == tag
  | _ => false

mutual

/-- A section as it is drawn while the pointer is in the section `pointer`. The pointer is
on a section if it is in it or in one drawn inside it. -/
def drawnOf (w : Gallery) (pointer : Option String) (action : DemoAction) :
    DemoSection → DrawnSection
  | .mk tag _ inner =>
    let inside := if w.isSectionOpen tag then drawnOfAll w pointer action inner else []
    .mk (DemoSection.siteOf tag) (pointer == some tag || inside.any (·.underPointer))
      (asksForCode tag action) (notes tag action) inside

/-- Sections as they are drawn while the pointer is in the section `pointer`. -/
def drawnOfAll (w : Gallery) (pointer : Option String) (action : DemoAction) :
    List DemoSection → List DrawnSection
  | [] => []
  | s :: rest => drawnOf w pointer action s :: drawnOfAll w pointer action rest

end

/-- Draws the window while the pointer is in the section `pointer` and an action is done in
it. The table is sorted whenever it is drawn, and the list of the combo box closes once the
box is no longer drawn. -/
def draw (w : Gallery) (pointer : Option String) (action : DemoAction) :
    Gallery × List Report :=
  if w.isOpen then
    let w := w.apply action
    let w := if w.showsBody .sorting then { w with values := w.values.sortRows } else w
    let w := { w with comboOpen := w.comboOpen && w.showsBody .combo }
    let (claimed, reports) :=
      DrawnSection.pass (w.drawnOfAll pointer action DemoSection.catalogue)
    ({ w with hoverClaimed := claimed }, reports)
  else ({ w with hoverClaimed := false, comboOpen := false }, [])

/-- The entries of the combo box, if its list is open. -/
def openList (w : Gallery) : List String :=
  if w.comboOpen && w.showsBody .combo then DemoValues.comboItems else []

def describe (w : Gallery) (connected : Bool) : String :=
  s!"DemoWindow \x7b markers: DemoMarkers \x7b bridge: {Bridge.describe connected}, " ++
    s!"hover_claimed: Cell \x7b value: {w.hoverClaimed} \x7d \x7d, " ++
    s!"state: {w.values.describe}, open: {w.isOpen} \x7d"

end Gallery

end Showcase
