/-!
# Editors

A browser drives an editor through a few operations: it hands over the text, makes the
cursor jump somewhere, and asks where the cursor is. What an editor does with a jump is its
own matter. `Notepad` obeys every jump to the letter and remembers it; an editor that keeps
the cursor inside the text has a module of its own.
-/

namespace Showcase

/-- A position in a text, the line counted from one. -/
structure Position where
  line : Nat
  column : Nat
  deriving DecidableEq, Repr, Inhabited

/-- Sends the cursor to a position, some rows above the line staying visible. -/
structure Jump where
  line : Nat
  column : Nat
  /-- The number of rows kept visible above the line. -/
  rowsAbove : Nat
  deriving DecidableEq, Repr, Inhabited

namespace Jump

def lineStart (line rowsAbove : Nat) : Jump :=
  ⟨line, 0, rowsAbove⟩

def position (j : Jump) : Position :=
  ⟨j.line, j.column⟩

end Jump

/-- What a browser needs of an editor. -/
class Editor (ε : Type) where
  replaceText : ε → String → ε
  /-- Obeys a jump that the browser asks for. -/
  jump : ε → Jump → ε
  /-- Lets the user put the cursor somewhere. -/
  place : ε → Position → ε
  cursor : ε → Position
  text : ε → String

/-- An editor that obeys every jump and remembers it. -/
structure Notepad where
  text : String := ""
  cursor : Position := ⟨0, 0⟩
  jumps : List Jump := []
  deriving DecidableEq, Repr, Inhabited

instance : Editor Notepad where
  replaceText pad text := { pad with text }
  jump pad j := { pad with cursor := j.position, jumps := pad.jumps ++ [j] }
  place pad p := { pad with cursor := p }
  cursor := Notepad.cursor
  text := Notepad.text

end Showcase
