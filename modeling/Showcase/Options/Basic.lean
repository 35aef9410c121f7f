import Showcase.File
import Showcase.Text.Blank

/-!
# Options

What a browser can be told before it starts. Every option has a default, and two of them
are checked: the marker must not be blank, and the delimiter must be a character that can
stand between the segments of a tag, which quotes, backslashes and blanks cannot.
-/

namespace Showcase

/-- The options of a browser. -/
structure Options where
  /-- The name of the call that tags sections. -/
  marker : String := "IMGUI_DEMO_MARKER"
  /-- What stands between the segments of a tag. -/
  pathDelimiter : Char := '/'
  /-- The number of rows kept visible above a line that is jumped to. -/
  contextLines : UInt64 := 3
  /-- Whether hovered sections are followed from the start. -/
  followOnStart : Bool := true
  /-- The name of the browsed source in links. -/
  sourceName : String := "imgui_demo.cpp"
  repoUrl : String := "https://github.com/ocornut/imgui/blob/master/"
  /-- Where edited source is saved, if it can be. -/
  savePath : Option FilePath := none
  windowTitle : String := "Demo Code"
  deriving DecidableEq, Repr, Inhabited

namespace Options

/-- Whether the delimiter can stand between the segments of a tag. -/
def isUsableDelimiter (c : Char) : Bool :=
  c ≠ '"' && c ≠ '\\' && !Text.isBlank c

/-- Checks that the options can drive a browser, the marker first. -/
def check (o : Options) : Except BrowseError Unit :=
  if Text.isBlankText o.marker.toList then .error (.blankMarker o.marker)
  else if !isUsableDelimiter o.pathDelimiter then .error (.unusableDelimiter o.pathDelimiter)
  else .ok ()

/-- The options themselves, if they can drive a browser. -/
def checked (o : Options) : Except BrowseError Options :=
  o.check.map fun _ => o

def link (o : Options) (line : Nat) : String :=
  s!"{o.repoUrl}{o.sourceName}#L{line}"

end Options

end Showcase
