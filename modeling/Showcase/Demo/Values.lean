import Showcase.Demo.Binary
import Showcase.Text.Quoted

/-!
# Values of the demo widgets

The widgets in the demo window edit these values. They start with something to look at: a
half-way slider, a few words in the text boxes, and a small table that is not sorted yet.
-/

namespace Showcase

/-- The choice of the radio buttons. -/
inductive Fruit
  | apple
  | banana
  | cherry
  deriving DecidableEq, Repr, Inhabited

namespace Fruit

def name : Fruit → String
  | apple => "Apple"
  | banana => "Banana"
  | cherry => "Cherry"

end Fruit

/-- A column of the table. -/
inductive TableColumn
  | id
  | name
  | quantity
  deriving DecidableEq, Repr, Inhabited

namespace TableColumn

def describe : TableColumn → String
  | id => "Id"
  | name => "Name"
  | quantity => "Quantity"

def header : TableColumn → String
  | id => "ID"
  | name => "Name"
  | quantity => "Quantity"

end TableColumn

/-- A row of the table. -/
structure TableRow where
  id : Nat
  name : String
  quantity : Nat
  deriving DecidableEq, Repr, Inhabited

namespace TableRow

/-- Whether `a` may stand before `b` in increasing order of a column. -/
def notAfter (column : TableColumn) (a b : TableRow) : Bool :=
  match column with
  | .id => a.id ≤ b.id
  | .name => a.name ≤ b.name
  | .quantity => a.quantity ≤ b.quantity

def describe (i : TableRow) : String :=
  s!"Item \x7b id: {i.id}, name: {Text.quotedText i.name}, quantity: {i.quantity} \x7d"

end TableRow

/-- The values of the demo widgets. -/
structure DemoValues where
  clicks : Nat := 0
  checked : Bool := true
  fruit : Fruit := .apple
  comboIndex : Nat := 0
  sliderValue : Decimal := ⟨5, 1⟩
  sliderInt : Int := 50
  singleLine : String := "Hello, world!"
  multiLine : String := "Multi-line text\nwith several\nlines."
  columns : Nat := 3
  scrollRows : Nat := 100
  items : List TableRow := [⟨3, "Mango", 12⟩, ⟨1, "Apple", 7⟩, ⟨4, "Kiwi", 30⟩, ⟨2, "Banana", 2⟩]
  sortColumn : TableColumn := .id
  sortAscending : Bool := true
  deriving DecidableEq, Repr, Inhabited

/-- A slider of the demo window. -/
inductive Slider
  | float
  | int
  | columns
  | rows
  deriving DecidableEq, Repr, Inhabited

/-- A text box of the demo window. -/
inductive TextBox
  | singleLine
  | multiLine
  deriving DecidableEq, Repr, Inhabited

namespace DemoValues

def comboItems : List String := ["AAAA", "BBBB", "CCCC", "DDDD"]

def comboText (s : DemoValues) : String :=
  comboItems.getD s.comboIndex ""

/-- Sorts the table by its column. The sort keeps the order of rows that are equal there. -/
def sortRows (s : DemoValues) : DemoValues :=
  let order (a b : TableRow) : Bool :=
    if s.sortAscending then a.notAfter s.sortColumn b else b.notAfter s.sortColumn a
  { s with items := s.items.mergeSort order }

/-- Chooses a column to sort by: a new one in increasing order, the present one in the other
order. -/
def sortBy (s : DemoValues) (column : TableColumn) : DemoValues :=
  { s with
    sortAscending := s.sortColumn ≠ column || !s.sortAscending
    sortColumn := column }

/-- The number that a slider is set to, for a range between two whole numbers. -/
def sliderNumber (value : Decimal) (low high : Int) : Decimal :=
  Precision.double.nearest (value.clamp low high)

def setSlider (s : DemoValues) (value : Decimal) : Slider → DemoValues
  | .float => { s with sliderValue := Precision.single.nearest (sliderNumber value 0 1) }
  | .int => { s with sliderInt := (sliderNumber value 0 100).round }
  | .columns => { s with columns := (sliderNumber value 1 5).round.toNat }
  | .rows => { s with scrollRows := (sliderNumber value 10 1000).round.toNat }

def editText (s : DemoValues) (edit : String → String) : TextBox → DemoValues
  | .singleLine => { s with singleLine := edit s.singleLine }
  | .multiLine => { s with multiLine := edit s.multiLine }

def describe (s : DemoValues) : String :=
  let items := String.intercalate ", " (s.items.map TableRow.describe)
  let sliderValue := (Precision.single.shortest s.sliderValue).text
  s!"DemoState \x7b clicks: {s.clicks}, checked: {s.checked}, fruit: {s.fruit.name}, " ++
    s!"combo_index: {s.comboIndex}, slider_value: {sliderValue}, " ++
    s!"slider_int: {s.sliderInt}, drag_value: 1.0, " ++
    s!"single_line: {Text.quotedText s.singleLine}, " ++
    s!"multi_line: {Text.quotedText s.multiLine}, columns: {s.columns}, " ++
    s!"scroll_rows: {s.scrollRows}, items: [{items}], " ++
    s!"sort_column: {s.sortColumn.describe}, sort_ascending: {s.sortAscending} \x7d"

end DemoValues

end Showcase
