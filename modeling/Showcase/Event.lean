import Showcase.Text.Quoted

/-!
# Demo events

What a demo section reports while it is drawn: that the pointer is over it, or that its
code is asked for. An event says where the section's marker stands.
-/

namespace Showcase

/-- Where a demo section is marked in its source. -/
structure SectionSite where
  file : String
  /-- The line of the marker, counted from one. -/
  line : Nat
  title : String
  deriving DecidableEq, Repr, Inhabited

/-- What a demo section reports. -/
inductive SectionEvent
  | hover (site : SectionSite)
  /-- The code of the section is asked for. -/
  | activate (site : SectionSite)
  deriving DecidableEq, Repr, Inhabited

namespace SectionSite

def describe (s : SectionSite) : String :=
  s!"DemoSite \x7b file: {Text.quotedText s.file}, line: {s.line}, " ++
    s!"title: {Text.quotedText s.title} \x7d"

end SectionSite

namespace SectionEvent

def site : SectionEvent → SectionSite
  | hover s => s
  | activate s => s

def line (e : SectionEvent) : Nat :=
  e.site.line

def isHover : SectionEvent → Bool
  | hover _ => true
  | activate _ => false

def describe : SectionEvent → String
  | hover s => s!"Hover({s.describe})"
  | activate s => s!"Activate({s.describe})"

end SectionEvent

end Showcase
