import Showcase.Browser.Frame
import Showcase.Browser.Look

/-!
# Steps of the browser

A browser is driven by the steps of its session and by gestures. A gesture takes two
frames: the first one shows whether the widget is there at all, and the second one carries
the gesture out. The pointer stays where it was put, so every later frame finds it there.
A step finds the disk as it is at that time.
-/

namespace Showcase

/-- A step of the browser. -/
inductive BrowserStep
  | session (step : SessionStep)
  | frame
  | press (target : Target)
  | type (target : Target) (text : String) (erase : Nat)
  | slide (index : Nat) (value : Decimal)
  /-- Puts the pointer on the header of a section, or takes it away. -/
  | point (title : Option String)
  | pointAt (target : Target)
  | look (part : Part)
  | isHighlighted (line : Nat)
  | editorText
  | describe
  | describeDemos
  | describeReadme
  deriving DecidableEq, Repr, Inhabited

/-- What a step of the browser answers. -/
inductive BrowserAnswer
  | session (answer : Answer)
  | opened (urls : List String)
  | notDrawn
  | nothing
  | sight (sight : Sight)
  deriving DecidableEq, Repr, Inhabited

namespace Browser

/-- A step in the making: the browser so far, what was reported and what was written. -/
structure Progress where
  browser : Browser
  log : List LogEntry := []
  written : List (FilePath × String) := []

/-- Draws one more frame, and gives the links that it opened. -/
def Progress.draw (p : Progress) (disk : Disk) (g : Gesture := .idle) : List String × Progress :=
  let f := p.browser.frame disk g
  (f.opened, ⟨f.browser, p.log ++ f.log, p.written ++ f.written⟩)

/-- Carries out a gesture if a first frame shows the widget it is meant for. -/
def attempt (b : Browser) (disk : Disk) (target : Target)
    (act : Progress → BrowserAnswer × Progress) : BrowserAnswer × Progress :=
  let (_, p) := (Progress.mk b [] []).draw disk
  if p.browser.shows target then act p else (.notDrawn, p)

def Progress.moveTo (p : Progress) (disk : Disk) (pointer : Option Target) : Progress :=
  ({ p with browser := { p.browser with pointer } }.draw disk).2

def perform (b : Browser) (disk : Disk) : BrowserStep → BrowserAnswer × Progress
  | .session step =>
    let log := b.session.performLog step
    let (answer, session) := b.session.perform step
    (.session answer, ⟨{ b with session }, log, []⟩)
  | .frame =>
    let (urls, p) := (Progress.mk b [] []).draw disk
    (.opened urls, p)
  | .press target =>
    b.attempt disk target fun p =>
      let (urls, p) := p.draw disk (.press target)
      (.opened urls, p)
  | .type target text erase =>
    b.attempt disk target fun p =>
      (.nothing, ((p.draw disk).2.draw disk (.type target text erase)).2)
  | .slide index value =>
    b.attempt disk (.demoSlider index) fun p => (.nothing, (p.draw disk (.slide index value)).2)
  | .point none => (.nothing, ((Progress.mk b [] []).draw disk).2.moveTo disk none)
  | .point (some title) =>
    b.attempt disk (.section title) fun p =>
      (.nothing, p.moveTo disk (some (.section title)))
  | .pointAt target =>
    b.attempt disk target fun p => (.nothing, ((p.moveTo disk (some target)).draw disk).2)
  | .look part =>
    let (_, p) := (Progress.mk b [] []).draw disk
    (.sight (p.browser.look part), p)
  | .isHighlighted line =>
    (.session (.flag (b.session.editor.isHighlighted line)), ⟨b, [], []⟩)
  | .editorText => (.session (.text b.session.editor.text), ⟨b, [], []⟩)
  | .describe => (.session (.text b.describe), ⟨b, [], []⟩)
  | .describeDemos => (.session (.text (b.demos.describe true)), ⟨b, [], []⟩)
  | .describeReadme => (.session (.text b.describeReadme), ⟨b, [], []⟩)

end Browser

end Showcase
