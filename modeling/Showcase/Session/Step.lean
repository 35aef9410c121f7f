import Showcase.Session.Basic

/-!
# Steps of a session

A session is driven step by step: demo events arrive, the reader works on the outline, and
the user moves the cursor. A step is a value, so that a run is a list of steps. `perform`
says what a step answers and what it makes of the session.
-/

namespace Showcase

/-- A step that concerns the view of the outline alone. -/
inductive ViewStep
  | filterBy (text : String)
  | pushFilter (text : String)
  /-- Erases the last character of the filter. -/
  | popFilter
  | matches (id : NodeId)
  | isExpanded (id : NodeId)
  | setExpanded (id : NodeId) (on : Bool)
  | toggle (id : NodeId)
  | expandAll
  | collapseAll
  | reveal (id : NodeId)
  | takeScroll
  | rows
  deriving DecidableEq, Repr, Inhabited

/-- A step of a session. -/
inductive SessionStep
  | view (step : ViewStep)
  | event (event : SectionEvent)
  | beginFrame
  | toggleFollow
  | setFollowing (enabled : Bool)
  | select (id : NodeId)
  /-- Chooses the entry with a path, if there is one. -/
  | selectPath (path : String)
  | place (position : Position)
  | followCursor
  | link
  | openLink
  | takeFocus
  | replaceText (text : String)
  | describe
  deriving DecidableEq, Repr, Inhabited

/-- What a step answers. -/
inductive Answer
  | nothing
  | flag (value : Bool)
  | node (id : Option NodeId)
  | text (value : String)
  | links (urls : List String)
  | rows (rows : List OutlineRow)
  /-- The step asked about a section that does not exist. -/
  | unknownSection
  deriving DecidableEq, Repr, Inhabited

namespace OutlineView

def perform (v : OutlineView) (s : Sections) : ViewStep → Answer × OutlineView
  | .filterBy text => (.nothing, v.filterBy text)
  | .pushFilter text => (.nothing, v.filterBy (v.filter ++ text))
  | .popFilter => (.nothing, v.filterBy (String.ofList v.filter.toList.dropLast))
  | .matches id =>
    match v.isMatch? s id with
    | some b => (.flag b, v)
    | none => (.unknownSection, v)
  | .isExpanded id => (.flag (v.isExpanded id), v)
  | .setExpanded id on => (.nothing, v.setExpanded id on)
  | .toggle id => (.nothing, v.toggle id)
  | .expandAll => (.nothing, v.expandAll s)
  | .collapseAll => (.nothing, v.collapseAll)
  | .reveal id => (.nothing, v.reveal s id)
  | .takeScroll => (.node v.takeScroll.1, v.takeScroll.2)
  | .rows => (.rows (v.rows s), v)

end OutlineView

namespace Session

variable {ε : Type} [Editor ε]

def describeOption (o : Option Nat) (wrap : String → String) : String :=
  match o with
  | none => "None"
  | some n => s!"Some({wrap (toString n)})"

def describe (s : Session ε) : String :=
  let lastLine := describeOption s.follow.lastLine id
  let selection := describeOption (s.selection.map (·.index)) fun n => s!"NodeId({n})"
  s!"SyncController \x7b sections: {s.outline.size}, " ++
    s!"follow: FollowState \x7b enabled: {s.follow.enabled}, " ++
    s!"last_followed_line: {lastLine} \x7d, selection: {selection}, .. \x7d"

def perform (s : Session ε) : SessionStep → Answer × Session ε
  | .view step =>
    let (answer, view) := s.view.perform s.outline.toSections step
    (answer, { s with view })
  | .event e => (.nothing, s.handle e)
  | .beginFrame => (.nothing, s.beginFrame)
  | .toggleFollow => (.flag (!s.follow.enabled), s.setFollowing (!s.follow.enabled))
  | .setFollowing enabled => (.flag enabled, s.setFollowing enabled)
  | .select id => (.nothing, s.select id)
  | .selectPath path =>
    match s.outline.find? path with
    | some id => (.node (some id), s.select id)
    | none => (.node none, s)
  | .place position => (.nothing, { s with editor := Editor.place s.editor position })
  | .followCursor => (.flag s.cursorMoved, s.followCursor)
  | .link => (.text s.link, s)
  | .openLink => (.links [s.link], s)
  | .takeFocus => (.flag s.takeFocus.1, s.takeFocus.2)
  | .replaceText text =>
    let editor := Editor.replaceText s.editor text
    (.flag (Editor.text editor == s.source.text), { s with editor })
  | .describe => (.text s.describe, s)

def performLog (s : Session ε) : SessionStep → List LogEntry
  | .event e => s.handleLog e
  | .toggleFollow => setFollowingLog (!s.follow.enabled)
  | .setFollowing enabled => setFollowingLog enabled
  | .select id => s.selectLog id
  | .selectPath path =>
    match s.outline.find? path with
    | some id => s.selectLog id
    | none => []
  | .openLink => s.openLinkLog
  | _ => []

def run (s : Session ε) (steps : List SessionStep) : Session ε :=
  steps.foldl (fun s step => (s.perform step).2) s

end Session

end Showcase
