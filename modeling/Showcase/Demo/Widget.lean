import Showcase.Demo.Section

/-!
# Widgets of the demo sections

What an open section shows, in order, as a function of the values that its widgets edit.
A widget has a face, says what happens when it is pressed, and may have a tooltip.
-/

namespace Showcase

/-- How a widget shows itself. -/
inductive WidgetFace
  | label (text : String)
  | button (text : String)
  | checkbox (text : String) (on : Bool)
  | radio (text : String) (on : Bool)
  | slider (slider : Slider) (text : String)
  | textBox (box : TextBox)
  | combo (text : String)
  deriving DecidableEq, Repr, Inhabited

/-- What can be done in the demo window. -/
inductive DemoAction
  | nothing
  | click
  | toggleChecked
  | pick (fruit : Fruit)
  | openCombo
  | pickItem (index : Nat)
  | slide (slider : Slider) (value : Decimal)
  | editText (box : TextBox) (edit : String → String)
  | toggleChild (index : Nat)
  | clickChild (index : Nat)
  | sortBy (column : TableColumn)
  | toggleSection (tag : String)
  | showCode (tag : String)

/-- A widget of the demo window. -/
structure Widget where
  face : WidgetFace
  onPress : DemoAction := .nothing
  tooltip : List String := []

namespace Widget

def label (text : String) (tooltip : List String := []) : Widget :=
  { face := .label text, tooltip }

def button (text : String) (onPress : DemoAction := .nothing) : Widget :=
  { face := .button text, onPress }

def radio (s : DemoValues) (fruit : Fruit) (text : String) : Widget :=
  { face := .radio text (s.fruit == fruit), onPress := .pick fruit }

/-- The header of a column of the table, with the direction if it is sorted by. -/
def header (s : DemoValues) (column : TableColumn) : Widget :=
  let arrow :=
    if s.sortColumn = column then (if s.sortAscending then " ^" else " v") else ""
  button (column.header ++ arrow) (.sortBy column)

/-- A child of the tree section, with its contents if it is open. -/
def child (opened : List Nat) (index : Nat) : List Widget :=
  button s!"Child {index}" (.toggleChild index) ::
    if index ∈ opened then [label "blah blah", button "button" (.clickChild index)] else []

def cells (item : TableRow) : List Widget :=
  [label (toString item.id), label item.name, label (toString item.quantity)]

/-- The widgets of an open section. Of the scrolled rows only the first is certain to be
drawn. -/
def ofBody (s : DemoValues) (openChildren : List Nat) : SectionBody → List Widget
  | .sections => []
  | .button =>
    button "Button" .click ::
      if s.clicks % 2 = 1 then [label "Thanks for clicking me!"] else []
  | .checkbox => [{ face := .checkbox "checkbox" s.checked, onPress := .toggleChecked }]
  | .radioButtons => [radio s .apple "apple", radio s .banana "banana", radio s .cherry "cherry"]
  | .combo => [{ face := .combo s.comboText, onPress := .openCombo }]
  | .sliders => [{ face := .slider .float "float" }, { face := .slider .int "int" }]
  | .textInput =>
    [{ face := .textBox .singleLine }, { face := .textBox .multiLine },
      label s!"{s.multiLine.length} characters"]
  | .trees => (List.range 3).flatMap (child openChildren)
  | .horizontal =>
    [label "Normal buttons", button "Banana", button "Apple", button "Corniflower"] ++
      (List.range 12).map fun i => label s!"Item {i}"
  | .columns =>
    { face := .slider .columns "columns" } ::
      (List.range s.columns).flatMap fun i => [label s!"Column {i}", label "Some text"]
  | .scrolling => [{ face := .slider .rows "rows" }, label "Row 0"]
  | .tooltips =>
    [label "Hover me" ["I am a tooltip"],
      label "Hover me too" ["Rich tooltip", "with several lines."]]
  | .sorting =>
    label "Click a column header to sort." ::
      [TableColumn.id, .name, .quantity].map (header s) ++ s.items.flatMap cells

end Widget

end Showcase
