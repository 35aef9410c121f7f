import Showcase.Warning

/-!
# Outlines

An outline is the table of contents of a tagged source. Its nodes stand in one array
in the order in which they were made, and refer to their parent and their children by
position, so that walking up needs no owning reference back. There is no node for the
root: a top-level section has no parent, and `none` stands for the root wherever a node
is optional.

A position may also come from elsewhere and lie outside the outline. Every question about
such a position has an answer here, mostly `none`.
-/

namespace Showcase

/-- The position of a node in an outline. -/
structure NodeId where
  index : Nat
  deriving DecidableEq, Repr, Inhabited

/-- How a node came to be. -/
inductive NodeOrigin
  | tagged
  /-- For a prefix of a path that had no tag of its own. -/
  | synthetic
  /-- For a tag whose path already had a node. -/
  | duplicate
  deriving DecidableEq, Repr, Inhabited

/-- A section in an outline. -/
structure OutlineNode where
  title : String
  /-- The segments joined by the delimiter. -/
  path : String
  /-- The source line the section leads to. -/
  line : Nat
  /-- The number of sections around this one. -/
  depth : Nat
  origin : NodeOrigin
  parent : Option NodeId
  /-- The sections inside, in the order in which they were made. -/
  children : List NodeId
  deriving DecidableEq, Repr, Inhabited

/-- The sections of an outline, before they are indexed by line. -/
structure Sections where
  nodes : Array OutlineNode := #[]
  /-- The top-level sections, in the order in which they were made. -/
  roots : List NodeId := []
  /-- The node first made for each path, the latest path first. -/
  paths : List (String × NodeId) := []
  warnings : List Warning := []
  deriving DecidableEq, Repr, Inhabited

/-- A table of contents. -/
structure Outline extends Sections where
  /-- The nodes ordered by line, then by depth, then by position. -/
  lineIndex : Array NodeId := #[]
  deriving DecidableEq, Repr, Inhabited

namespace Sections

def get? (s : Sections) (id : NodeId) : Option OutlineNode :=
  s.nodes[id.index]?

def size (s : Sections) : Nat :=
  s.nodes.size

/-- The positions of all nodes, in the order in which the nodes were made. -/
def ids (s : Sections) : List NodeId :=
  (List.range s.size).map NodeId.mk

def find? (s : Sections) (path : String) : Option NodeId :=
  s.paths.lookup path

/-- The parent of a node; `none` for a top-level section. -/
def parent? (s : Sections) (id : NodeId) : Option NodeId :=
  (s.get? id).bind (·.parent)

def childrenOf (s : Sections) (id : NodeId) : List NodeId :=
  match s.get? id with
  | some node => node.children
  | none => []

/-- The children of a node, or the top-level sections for the root. -/
def children (s : Sections) : Option NodeId → List NodeId
  | none => s.roots
  | some id => s.childrenOf id

def tagCount (s : Sections) : Nat :=
  s.nodes.toList.countP fun node => node.origin != .synthetic

/-- `start` and the nodes above it, at most `fuel` of them. -/
def upwards (s : Sections) : Nat → Option NodeId → List NodeId
  | 0, _ => []
  | _ + 1, none => []
  | fuel + 1, some id => id :: s.upwards fuel (s.parent? id)

/-- The nodes around a node, from its parent to a top-level section. No chain of parents is
longer than the number of nodes. -/
def ancestors (s : Sections) (id : NodeId) : List NodeId :=
  s.upwards s.size (s.parent? id)

def isAncestor (s : Sections) (above id : NodeId) : Bool :=
  above ∈ s.ancestors id

/-- The nodes met by a walk from the top down, at most `fuel` of them looked at. A node
that is not `shown` is left out with all below it, and what lies below a node is met only
if the node is `opened`. The nodes still to be looked at wait in order. -/
def walkFrom (s : Sections) (shown opened : NodeId → Bool) :
    Nat → List NodeId → List NodeId
  | 0, _ => []
  | _ + 1, [] => []
  | fuel + 1, id :: waiting =>
    if shown id then
      id :: s.walkFrom shown opened fuel
        (if opened id then s.childrenOf id ++ waiting else waiting)
    else s.walkFrom shown opened fuel waiting

/-- The nodes met by a walk over the whole outline: each before the ones inside it, and
the ones inside it before the next. No node is looked at twice. -/
def walk (s : Sections) (shown opened : NodeId → Bool) : List NodeId :=
  s.walkFrom shown opened s.size s.roots

def textRow (s : Sections) (id : NodeId) : String :=
  match s.get? id with
  | some node =>
    String.ofList (List.replicate (2 * node.depth) ' ') ++ s!"{node.title} @{node.line}\n"
  | none => ""

/-- The outline as text, one indented row for each node. -/
def text (s : Sections) : String :=
  String.join ((s.walk (fun _ => true) (fun _ => true)).map s.textRow)

end Sections

end Showcase
