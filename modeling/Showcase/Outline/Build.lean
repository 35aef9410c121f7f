import Showcase.Log
import Showcase.Outline.Basic
import Showcase.Source.Tagged
import Showcase.Text.Path

/-!
# Building an outline

Tags are added one after the other. The sections of the tag before are still open, from
the top level down; the new tag closes those that its path does not share, and then goes
down through the rest of its path. On the way a known path is entered and an unknown one
gets a node, `synthetic` for a section that only encloses the tag's own. A tag whose whole
path is known becomes a leaf under the section it repeats, and unless that section was
never tagged itself, a warning.
-/

namespace Showcase

namespace Sections

def addSection (s : Sections) (parent : Option NodeId) (title path : String) (line : Nat)
    (origin : NodeOrigin) : Sections × NodeId :=
  let id : NodeId := ⟨s.size⟩
  let depth :=
    match parent.bind s.get? with
    | some above => above.depth + 1
    | none => 0
  let node : OutlineNode := ⟨title, path, line, depth, origin, parent, []⟩
  let linked : Sections :=
    match parent with
    | some p =>
      { s with nodes := s.nodes.modify p.index fun n => { n with children := n.children ++ [id] } }
    | none => { s with roots := s.roots ++ [id] }
  ({ linked with nodes := linked.nodes.push node, paths := (path, id) :: linked.paths }, id)

/-- Adds a leaf below `existing` for a tag that repeats its path. -/
def addRepeat (s : Sections) (existing : NodeId) (line : Nat) : Sections :=
  match s.get? existing with
  | none => s
  | some repeated =>
    let id : NodeId := ⟨s.size⟩
    let node : OutlineNode :=
      ⟨repeated.title, repeated.path, line, repeated.depth + 1, .duplicate, some existing, []⟩
    { s with
      nodes :=
        (s.nodes.modify existing.index fun n => { n with children := n.children ++ [id] }).push node
      warnings :=
        if repeated.origin = .tagged then s.warnings ++ [.duplicatePath line repeated.path]
        else s.warnings }

/-- Goes down from the innermost of the sections `opened`, whose path is `above`, through
the remaining segments of a tag, and gives the sections open at the end. -/
def descend (delimiter : Char) (line : Nat) :
    Sections → List NodeId → List (List Char) → List (List Char) → Sections × List NodeId
  | s, opened, _, [] => (s, opened)
  | s, opened, above, segment :: rest =>
    let here := above ++ [segment]
    let path := String.ofList (Text.joinWith delimiter here)
    match s.find? path with
    | some id =>
      let s := if rest.isEmpty then s.addRepeat id line else s
      descend delimiter line s (opened ++ [id]) here rest
    | none =>
      let origin := if rest.isEmpty then NodeOrigin.tagged else .synthetic
      let (s, id) := s.addSection opened.getLast? (String.ofList segment) path line origin
      descend delimiter line s (opened ++ [id]) here rest

/-- The sections of `opened`, from the top level down, whose titles are the leading
segments of a path. -/
def shared (s : Sections) (opened : List NodeId) (segments : List (List Char)) : List NodeId :=
  ((opened.zip segments).takeWhile fun (id, segment) =>
    (s.get? id).any fun node => node.title == String.ofList segment).map Prod.fst

def addTag (delimiter : Char) (state : Sections × List NodeId) (tag : Tag) :
    Sections × List NodeId :=
  let (s, opened) := state
  let segments := Text.segments delimiter tag.text.toList
  if segments.isEmpty then ({ s with warnings := s.warnings ++ [.emptyTag tag.line] }, opened)
  else
    let opened := s.shared opened segments
    if opened.length = segments.length then
      match opened.getLast? with
      | some id => (s.addRepeat id tag.line, opened)
      | none => (s, opened)
    else
      descend delimiter tag.line s opened (segments.take opened.length)
        (segments.drop opened.length)

def ofTags (tags : List Tag) (delimiter : Char) : Sections :=
  (tags.foldl (addTag delimiter) ({}, [])).1

/-- Whether the node at `a` comes no later than the one at `b`, by line, then by depth, then
by position. -/
def notAfter (s : Sections) (a b : NodeId) : Bool :=
  match s.get? a, s.get? b with
  | some m, some n =>
    m.line < n.line || m.line == n.line &&
      (m.depth < n.depth || m.depth == n.depth && a.index ≤ b.index)
  | _, _ => true

def index (s : Sections) : Outline :=
  { s with lineIndex := (s.ids.mergeSort s.notAfter).toArray }

end Sections

namespace Outline

def ofTags (tags : List Tag) (delimiter : Char) : Outline :=
  (Sections.ofTags tags delimiter).index

def ofTagsLog (t : Outline) : List LogEntry :=
  t.warnings.map (fun w => ⟨.debug, s!"table of contents: {w.message}"⟩) ++
    [⟨.debug, s!"built table of contents: {t.size} nodes, {t.roots.length} top-level sections"⟩]

/-- The innermost section that encloses a source line: of the nodes that do not start after
the line, the last by line, depth and position. -/
def enclosing? (t : Outline) (line : Nat) : Option NodeId :=
  match partitionPoint t.lineIndex fun id => (t.get? id).any (·.line ≤ line) with
  | 0 => none
  | count + 1 => t.lineIndex[count]?

end Outline

end Showcase
