import Showcase.Editor.Basic
import Showcase.Event
import Showcase.File
import Showcase.Options.Basic
import Showcase.Outline.Build
import Showcase.Outline.View

/-!
# Sessions

A session keeps three things in step: the demos, which report events; the outline of their
source; and an editor that shows the source.

* An activation always sends the cursor to its line and selects the section around it.
* A hover selects and reveals the section around its line, if hovers are followed. It never
  moves the cursor, it is ignored once an activation came in the same frame, and it is
  ignored if its line is the one that was followed last.
* Choosing an entry of the outline sends the cursor to the line of that entry.

Every operation comes with the entries that it reports, as a function of the session
before.
-/

namespace Showcase

/-- Whether hovers are followed, and the line that was followed last. -/
structure Follow where
  enabled : Bool
  lastLine : Option Nat := none
  deriving DecidableEq, Repr, Inhabited

/-- A browsing session over an editor. -/
structure Session (ε : Type) where
  source : TaggedSource
  outline : Outline
  view : OutlineView := {}
  editor : ε
  options : Options
  follow : Follow
  /-- The selected section, `none` being the root. -/
  selection : Option NodeId := none
  /-- Whether an activation came since the frame began. -/
  activated : Bool := false
  /-- Whether the code is to be brought to the front. -/
  focusRequested : Bool := false
  /-- The cursor line that the session knows about. -/
  knownLine : Nat

namespace Session

variable {ε : Type} [Editor ε]

/-! ## Starting -/

/-- A session over a scanned source. The editor is given the text. -/
def start (source : TaggedSource) (editor : ε) (options : Options) : Session ε :=
  let editor := Editor.replaceText editor source.text
  { source
    outline := Outline.ofTags source.tags options.pathDelimiter
    editor
    options
    follow := ⟨options.followOnStart, none⟩
    knownLine := (Editor.cursor editor).line }

def startLog (s : Session ε) : List LogEntry :=
  s.outline.ofTagsLog ++
    [⟨.info, s!"demo browser ready: {s.outline.size} sections in {s.options.sourceName}"⟩]

/-- A session over a source text, for options that have to be valid. -/
def ofText (text : String) (editor : ε) (options : Options) :
    Except BrowseError (Session ε) := do
  options.check
  let marker ← Marker.ofText options.marker
  return start (TaggedSource.parse marker text) editor options

/-- A session over a source file, for options that have to be valid. -/
def ofFile (file : FileContent) (editor : ε) (options : Options) :
    Except BrowseError (Session ε) := do
  options.check
  let marker ← Marker.ofText options.marker
  let text ← file.text.mapError .file
  return start (TaggedSource.parse marker text) editor options

def openLog (s : Session ε) (marker : Marker) (file : Option String) : List LogEntry :=
  TaggedSource.parseLog marker s.source ++
    (file.toList.map fun name =>
      ⟨.info, s!"indexed {s.source.tags.length} demo tags from {name}"⟩) ++
    s.startLog

/-! ## Questions -/

/-- The warnings about the source and about its outline, by line. -/
def warnings (s : Session ε) : List Warning :=
  (s.source.warnings ++ s.outline.warnings).mergeSort fun a b => a.line ≤ b.line

def cursorLine (s : Session ε) : Nat :=
  (Editor.cursor s.editor).line

def link (s : Session ε) : String :=
  s.options.link (max 1 s.cursorLine)

def selected? (s : Session ε) : Option OutlineNode :=
  s.selection.bind s.outline.get?

/-! ## Frames and following -/

def beginFrame (s : Session ε) : Session ε :=
  { s with activated := false }

/-- Turns following on or off. Turning it on forgets the line followed last. -/
def setFollowing (s : Session ε) (enabled : Bool) : Session ε :=
  { s with
    follow :=
      ⟨enabled, if enabled && !s.follow.enabled then none else s.follow.lastLine⟩ }

def setFollowingLog (enabled : Bool) : List LogEntry :=
  [⟨.debug, if enabled then "follow mode on" else "follow mode off"⟩]

/-! ## Navigation -/

def goTo (s : Session ε) (line : Nat) : Session ε :=
  let editor :=
    Editor.jump s.editor (Jump.lineStart line s.options.contextLines.toNat)
  { s with editor, knownLine := (Editor.cursor editor).line }

/-- Selects the section around a line and reveals it. -/
def selectAround (s : Session ε) (line : Nat) : Session ε :=
  match s.outline.enclosing? line with
  | some id => { s with selection := some id, view := s.view.reveal s.outline.toSections id }
  | none => { s with selection := none }

def selectAroundLog (s : Session ε) (line : Nat) : List LogEntry :=
  match s.outline.enclosing? line with
  | some _ => []
  | none => [⟨.debug, s!"no section encloses line {line}, selecting root"⟩]

def activate (s : Session ε) (site : SectionSite) : Session ε :=
  let s :=
    { s with
      activated := true
      focusRequested := true
      follow := { s.follow with lastLine := some site.line } }
  (s.goTo site.line).selectAround site.line

def activateLog (s : Session ε) (site : SectionSite) : List LogEntry :=
  ⟨.debug, s!"show code for '{site.title}' ({site.file}:{site.line})"⟩ ::
    s.selectAroundLog site.line

def follows (s : Session ε) (line : Nat) : Bool :=
  s.follow.enabled && !s.activated && s.follow.lastLine != some line

def hover (s : Session ε) (site : SectionSite) : Session ε :=
  if s.follows site.line then
    { s with follow := { s.follow with lastLine := some site.line } }.selectAround site.line
  else s

def hoverLog (s : Session ε) (site : SectionSite) : List LogEntry :=
  if s.follows site.line then
    ⟨.trace, s!"following '{site.title}' at line {site.line}"⟩ :: s.selectAroundLog site.line
  else []

omit [Editor ε] in
@[simp] theorem editor_selectAround (s : Session ε) (line : Nat) :
    (s.selectAround line).editor = s.editor := by
  unfold selectAround
  split <;> rfl

omit [Editor ε] in
@[simp] theorem editor_hover (s : Session ε) (site : SectionSite) :
    (s.hover site).editor = s.editor := by
  unfold hover
  split
  · simp
  · rfl

def handle (s : Session ε) : SectionEvent → Session ε
  | .activate site => s.activate site
  | .hover site => s.hover site

def handleLog (s : Session ε) : SectionEvent → List LogEntry
  | .activate site => s.activateLog site
  | .hover site => s.hoverLog site

def select (s : Session ε) (id : NodeId) : Session ε :=
  match s.outline.get? id with
  | some node => { s.goTo node.line with selection := some id }
  | none => s

def selectLog (s : Session ε) (id : NodeId) : List LogEntry :=
  match s.outline.get? id with
  | some node => [⟨.debug, s!"toc selected '{node.path}' at line {node.line}"⟩]
  | none => [⟨.debug, s!"ignoring selection of unknown section NodeId({id.index})"⟩]

/-- Whether the cursor is on another line than the session knows about. -/
def cursorMoved (s : Session ε) : Bool :=
  s.cursorLine != s.knownLine

/-- Selects the section around the cursor, if the user moved it to another line. -/
def followCursor (s : Session ε) : Session ε :=
  if s.cursorMoved then
    { s with knownLine := s.cursorLine, selection := s.outline.enclosing? s.cursorLine }
  else s

/-- Takes the request to bring the code to the front. -/
def takeFocus (s : Session ε) : Bool × Session ε :=
  (s.focusRequested, { s with focusRequested := false })

def openLinkLog (s : Session ε) : List LogEntry :=
  [⟨.info, s!"opening {s.link}"⟩]

end Session

end Showcase
