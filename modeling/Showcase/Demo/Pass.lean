import Showcase.Event
import Showcase.Log

/-!
# Passes over drawn sections

In one pass the demo window draws its sections, each with the sections inside it. A section
whose code button is pressed reports an activation, and of the sections under the pointer
one reports a hover: the first that finds the hover unclaimed. Sections inside a section
are drawn, and so report, before it does, which is why the hover goes to an innermost
section.
-/

namespace Showcase

/-- A section as it is drawn in one pass. -/
inductive DrawnSection
  /-- The section marked at `site`: whether the pointer is on it, whether its code button is
  pressed, what its widgets report, and the sections drawn inside it. -/
  | mk (site : SectionSite) (underPointer codePressed : Bool) (notes : List LogEntry)
      (inner : List DrawnSection)
  deriving Repr, Inhabited

/-- What is reported in the course of a pass. -/
inductive Report
  | event (event : SectionEvent)
  | note (entry : LogEntry)
  deriving DecidableEq, Repr, Inhabited

namespace DrawnSection

def site : DrawnSection → SectionSite
  | mk site _ _ _ _ => site

def underPointer : DrawnSection → Bool
  | mk _ underPointer _ _ _ => underPointer

def inner : DrawnSection → List DrawnSection
  | mk _ _ _ _ inner => inner

mutual

/-- Draws a section: whether the hover is claimed afterwards, and what was reported. -/
def draw (claimed : Bool) : DrawnSection → Bool × List Report
  | mk site underPointer codePressed notes inner =>
    let (claimed, reports) := drawAll claimed inner
    let pressed := if codePressed then [.event (.activate site)] else []
    let reports := reports ++ notes.map Report.note ++ pressed
    if !claimed && underPointer then (true, reports ++ [.event (.hover site)])
    else (claimed, reports)

def drawAll (claimed : Bool) : List DrawnSection → Bool × List Report
  | [] => (claimed, [])
  | s :: rest =>
    let (claimed, reports) := draw claimed s
    let (claimed, later) := drawAll claimed rest
    (claimed, reports ++ later)

end

/-- Draws the sections of a window, the hover being unclaimed at first. -/
def pass (sections : List DrawnSection) : Bool × List Report :=
  drawAll false sections

end DrawnSection

end Showcase
