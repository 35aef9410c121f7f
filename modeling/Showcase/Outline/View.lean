import Showcase.Outline.Basic
import Showcase.Text.Blank
import Showcase.Text.Lowercase
import Showcase.Text.Search

/-!
# Views of an outline

What the reader of a table of contents has set: a search filter, the set of expanded
sections and a pending request to scroll. The expanded set changes when the reader toggles
a section and when a section is revealed, which only ever adds its ancestors. A filter
opens the sections above a match for display without touching that set, so that clearing
the filter brings back what the reader had.

A filter that is blank is no filter. Otherwise a section is shown if its title, a title
above it or a title below it matches, and it is listed if besides that every section
around it is open. Matches are looked for in lower case.
-/

namespace Showcase

/-- What the reader of an outline has set. -/
structure OutlineView where
  filter : String := ""
  expanded : List NodeId := []
  scrollTarget : Option NodeId := none
  deriving DecidableEq, Repr, Inhabited

/-- One line of an outline as it is displayed. -/
structure OutlineRow where
  id : NodeId
  depth : Nat
  hasChildren : Bool
  isOpen : Bool
  /-- Whether the title matches the filter. -/
  matched : Bool
  deriving DecidableEq, Repr, Inhabited

namespace OutlineView

def filterBy (v : OutlineView) (filter : String) : OutlineView :=
  { v with filter }

def hasFilter (v : OutlineView) : Bool :=
  !Text.isBlankText v.filter.toList

def needle (v : OutlineView) : List Char :=
  Text.lower (Text.trimBlanks v.filter.toList)

/-- Whether the title of a node contains what is looked for. -/
def hits (v : OutlineView) (node : OutlineNode) : Bool :=
  Text.occursIn v.needle (Text.lower node.title.toList)

/-- Whether the filter is active and matches the title of a node; `none` if it is active and
there is no such node. -/
def isMatch? (v : OutlineView) (s : Sections) (id : NodeId) : Option Bool :=
  if v.hasFilter then (s.get? id).map v.hits else some false

def isExpanded (v : OutlineView) (id : NodeId) : Bool :=
  id ∈ v.expanded

def expand (v : OutlineView) (id : NodeId) : OutlineView :=
  { v with expanded := v.expanded.insert id }

def collapse (v : OutlineView) (id : NodeId) : OutlineView :=
  { v with expanded := v.expanded.filter (· ≠ id) }

/-- Puts a node into the expanded set or takes it out. -/
def setExpanded (v : OutlineView) (id : NodeId) (on : Bool) : OutlineView :=
  if on then v.expand id else v.collapse id

/-- Takes an expanded node out of the set and puts any other in. -/
def toggle (v : OutlineView) (id : NodeId) : OutlineView :=
  v.setExpanded id (!v.isExpanded id)

def expandAll (v : OutlineView) (s : Sections) : OutlineView :=
  (s.ids.filter fun id => !(s.childrenOf id).isEmpty).foldl expand v

def collapseAll (v : OutlineView) : OutlineView :=
  { v with expanded := [] }

/-- Expands the ancestors of a node and asks to scroll to it. -/
def reveal (v : OutlineView) (s : Sections) (id : NodeId) : OutlineView :=
  { (s.ancestors id).foldl expand v with scrollTarget := some id }

/-- What is in the expanded set once a node has been put into it. -/
@[simp] theorem mem_expanded_expand {v : OutlineView} {a id : NodeId} :
    a ∈ (v.expand id).expanded ↔ a = id ∨ a ∈ v.expanded := by
  simp [expand]

/-- What is in the expanded set once a node has been taken out of it. -/
@[simp] theorem mem_expanded_collapse {v : OutlineView} {a id : NodeId} :
    a ∈ (v.collapse id).expanded ↔ a ∈ v.expanded ∧ a ≠ id := by
  simp [collapse]

theorem mem_expanded_foldl_expand {v : OutlineView} {ids : List NodeId} {a : NodeId} :
    a ∈ (ids.foldl expand v).expanded ↔ a ∈ ids ∨ a ∈ v.expanded := by
  induction ids generalizing v with
  | nil => simp
  | cons id ids ih =>
    rw [List.foldl_cons, ih, mem_expanded_expand, List.mem_cons]
    constructor
    · rintro (h | h | h)
      · exact Or.inl (Or.inr h)
      · exact Or.inl (Or.inl h)
      · exact Or.inr h
    · rintro ((h | h) | h)
      · exact Or.inr (Or.inl h)
      · exact Or.inl h
      · exact Or.inr (Or.inr h)

/-- Revealing a node adds its ancestors to the expanded set and takes nothing away. -/
theorem mem_expanded_reveal {v : OutlineView} {s : Sections} {a id : NodeId} :
    a ∈ (v.reveal s id).expanded ↔ a ∈ s.ancestors id ∨ a ∈ v.expanded :=
  mem_expanded_foldl_expand

@[simp] theorem scrollTarget_reveal (v : OutlineView) (s : Sections) (id : NodeId) :
    (v.reveal s id).scrollTarget = some id := rfl

def takeScroll (v : OutlineView) : Option NodeId × OutlineView :=
  (v.scrollTarget, { v with scrollTarget := none })

/-- What an active filter finds, for every node by position. Nothing is found without a
filter. -/
structure Findings where
  own : Array Bool := #[]
  below : Array Bool := #[]
  above : Array Bool := #[]

/-- Carries every match all the way up: for every node, whether a node below it matches.
Children come after their parents, so one pass from the last node to the first does it. -/
def carryUp (s : Sections) (own : Array Bool) : Array Bool :=
  s.ids.foldr
    (fun id flags =>
      match s.parent? id with
      | some p =>
        if own.getD id.index false || flags.getD id.index false then
          flags.setIfInBounds p.index true
        else flags
      | none => flags)
    (Array.replicate s.size false)

/-- Carries every match all the way down: for every node, whether a node above it matches.
One pass from the first node to the last does it. -/
def carryDown (s : Sections) (own : Array Bool) : Array Bool :=
  s.nodes.foldl
    (fun flags node =>
      flags.push <|
        match node.parent with
        | some p => own.getD p.index false || flags.getD p.index false
        | none => false)
    #[]

def findings (v : OutlineView) (s : Sections) : Findings :=
  if v.hasFilter then
    let own := s.nodes.map v.hits
    ⟨own, carryUp s own, carryDown s own⟩
  else {}

/-- Whether a node is shown: all are without a filter, and with one those that match and
those below and above a match. -/
def passes (v : OutlineView) (found : Findings) (id : NodeId) : Bool :=
  !v.hasFilter || found.own.getD id.index false || found.below.getD id.index false ||
    found.above.getD id.index false

/-- Whether a node is open: if it has children, and is expanded or has a match below it. -/
def isOpen (v : OutlineView) (s : Sections) (found : Findings) (id : NodeId) : Bool :=
  !(s.childrenOf id).isEmpty && (found.below.getD id.index false || v.isExpanded id)

def row (v : OutlineView) (s : Sections) (found : Findings) (id : NodeId) : OutlineRow where
  id
  depth := ((s.get? id).map (·.depth)).getD 0
  hasChildren := !(s.childrenOf id).isEmpty
  isOpen := v.isOpen s found id
  matched := found.own.getD id.index false

def rows (v : OutlineView) (s : Sections) : List OutlineRow :=
  let found := v.findings s
  (s.walk (v.passes found) (v.isOpen s found)).map (v.row s found)

end OutlineView

end Showcase
