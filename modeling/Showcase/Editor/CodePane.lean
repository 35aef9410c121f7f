import Showcase.Editor.Basic
import Showcase.Log
import Showcase.Source.Partition
import Showcase.Text.Lines

/-!
# The code pane

The code pane shows a text with numbered lines, the lines of markers among them
highlighted. Jumps are clamped to the lines that there are, and leave a request to
scroll that the next drawing takes. In edit mode the text is shown in a text box instead:
the user may change it, which makes the pane dirty until the text is saved or replaced.
-/

namespace Showcase

/-- The state of a code pane. -/
structure CodePane where
  text : String := ""
  lines : List String := []
  /-- The highlighted lines, in increasing order. -/
  highlighted : Array Nat := #[]
  cursor : Position := ⟨1, 0⟩
  pendingScroll : Option Jump := none
  editing : Bool := false
  /-- Whether the text was edited since it was last set or saved. -/
  dirty : Bool := false
  deriving DecidableEq, Repr, Inhabited

def dropRepeats : List Nat → List Nat
  | [] => []
  | [n] => [n]
  | m :: n :: ns => if m = n then dropRepeats (n :: ns) else m :: dropRepeats (n :: ns)

namespace CodePane

def linesOf (text : String) : List String :=
  (Text.lines text.toList).map String.ofList

def lineCount (p : CodePane) : Nat :=
  p.lines.length

/-- The line nearest to `line` that exists; line 1 in an empty text. -/
def nearestLine (p : CodePane) (line : Nat) : Nat :=
  max 1 (min line (max 1 p.lineCount))

theorem one_le_nearestLine (p : CodePane) (line : Nat) : 1 ≤ p.nearestLine line :=
  Nat.le_max_left _ _

theorem nearestLine_le (p : CodePane) (line : Nat) : p.nearestLine line ≤ max 1 p.lineCount :=
  Nat.max_le.2 ⟨Nat.le_max_left _ _, Nat.min_le_right _ _⟩

theorem nearestLine_eq_self {p : CodePane} {line : Nat} (h : 1 ≤ line)
    (h' : line ≤ p.lineCount) : p.nearestLine line = line := by
  unfold nearestLine
  omega

/-- Replaces the text, the cursor staying on its line if it can. -/
def replaceText (p : CodePane) (text : String) : CodePane :=
  let p := { p with text, lines := linesOf text }
  { p with cursor := ⟨p.nearestLine p.cursor.line, 0⟩, dirty := false }

/-- Sends the cursor to the nearest line and asks to scroll there. -/
def jump (p : CodePane) (j : Jump) : CodePane :=
  let line := p.nearestLine j.line
  { p with cursor := ⟨line, j.column⟩, pendingScroll := some { j with line } }

def highlight (p : CodePane) (lines : List Nat) : CodePane :=
  { p with highlighted := (dropRepeats (lines.mergeSort (· ≤ ·))).toArray }

def isHighlighted (p : CodePane) (line : Nat) : Bool :=
  match p.highlighted[partitionPoint p.highlighted (· < line)]? with
  | some n => n == line
  | none => false

def setEditMode (p : CodePane) (editing : Bool) : CodePane :=
  { p with editing }

def edit (p : CodePane) (text : String) : CodePane :=
  { p with text, lines := linesOf text, dirty := true }

/-- Whether a line is displayed, so that it can be clicked. -/
def displays (p : CodePane) (line : Nat) : Bool :=
  !p.editing && 1 ≤ line && line ≤ p.lineCount

def click (p : CodePane) (line : Nat) : CodePane :=
  { p with cursor := ⟨line, 0⟩ }

/-- Drawing the pane takes the request to scroll, except in edit mode. -/
def draw (p : CodePane) : CodePane :=
  if p.editing then p else { p with pendingScroll := none }

/-- The pane once its text has been written, or could not be. -/
def saved (p : CodePane) (written : Bool) : CodePane :=
  if written then { p with dirty := false } else p

def savedLog (p : CodePane) (path : String) : List LogEntry :=
  [⟨.info, s!"saved {p.lineCount} lines to {path}"⟩]

end CodePane

/-- A step of what happens to a code pane. -/
inductive PaneStep
  | replaceText (text : String)
  | jump (jump : Jump)
  | highlight (lines : List Nat)
  | setEditMode (editing : Bool)
  /-- The user changes the text, which takes edit mode. -/
  | edit (text : String)
  /-- The user clicks a line, which has to be displayed. -/
  | click (line : Nat)
  | draw
  /-- The text is saved, if it can be `written`. -/
  | save (written : Bool)
  deriving DecidableEq, Repr, Inhabited

namespace CodePane

def perform (p : CodePane) : PaneStep → CodePane
  | .replaceText text => p.replaceText text
  | .jump j => p.jump j
  | .highlight lines => p.highlight lines
  | .setEditMode editing => p.setEditMode editing
  | .edit text => if p.editing then p.edit text else p
  | .click line => if p.displays line then p.click line else p
  | .draw => p.draw
  | .save written => p.saved written

def run (p : CodePane) (steps : List PaneStep) : CodePane :=
  steps.foldl perform p

instance : Editor CodePane where
  replaceText := replaceText
  jump := jump
  place p at' := p.jump ⟨at'.line, at'.column, 0⟩
  cursor := cursor
  text := text

end CodePane

end Showcase
