import Showcase.Json.Basic
import Showcase.Options.Basic

/-!
# Option keys

The names under which options are written in JSON, in the order in which they are written,
the kind of value that each of them takes, and the value that it has.
-/

namespace Showcase

/-- An option as it is named in JSON. -/
inductive OptionKey
  | marker
  | pathDelimiter
  | contextLines
  | followOnStart
  | sourceName
  | repoUrl
  | savePath
  | windowTitle
  deriving DecidableEq, Repr, Inhabited

namespace OptionKey

/-- All keys, in the order in which they are written. -/
def all : List OptionKey :=
  [marker, pathDelimiter, contextLines, followOnStart, sourceName, repoUrl, savePath, windowTitle]

def name : OptionKey → String
  | marker => "marker"
  | pathDelimiter => "path_delimiter"
  | contextLines => "cursor_context_lines"
  | followOnStart => "follow_on_start"
  | sourceName => "source_name"
  | repoUrl => "repo_url"
  | savePath => "save_path"
  | windowTitle => "window_title"

def ofName? (name : String) : Option OptionKey :=
  all.find? fun key => key.name == name

theorem mem_all (key : OptionKey) : key ∈ all := by
  cases key <;> decide

end OptionKey

namespace Options

/-- Sets the option `key` to a JSON value, if it is of the right kind. -/
def set? (o : Options) : OptionKey → Json.Scalar → Option Options
  | .marker, .string s => some { o with marker := s }
  | .pathDelimiter, .string s =>
    match s.toList with
    | [c] => some { o with pathDelimiter := c }
    | _ => none
  | .contextLines, .number n => n.toCount?.map fun count => { o with contextLines := count }
  | .followOnStart, .bool b => some { o with followOnStart := b }
  | .sourceName, .string s => some { o with sourceName := s }
  | .repoUrl, .string s => some { o with repoUrl := s }
  | .savePath, .null => some { o with savePath := none }
  | .savePath, .string s => some { o with savePath := some (.ofText s) }
  | .windowTitle, .string s => some { o with windowTitle := s }
  | _, _ => none

/-- The JSON value of an option. A save path has one only if it is a text. -/
def scalar (o : Options) : OptionKey → Except JsonError Json.Scalar
  | .marker => .ok (.string o.marker)
  | .pathDelimiter => .ok (.string (String.ofList [o.pathDelimiter]))
  | .contextLines => .ok (.number (.ofCount o.contextLines))
  | .followOnStart => .ok (.bool o.followOnStart)
  | .sourceName => .ok (.string o.sourceName)
  | .repoUrl => .ok (.string o.repoUrl)
  | .savePath =>
    match o.savePath with
    | none => .ok .null
    | some path =>
      match path.text? with
      | some text => .ok (.string text)
      | none => .error .notText
  | .windowTitle => .ok (.string o.windowTitle)

/-- The options as the members of an object, in the order in which they are written. -/
def fields (o : Options) : Except JsonError (List (String × Json.Scalar)) :=
  OptionKey.all.mapM fun key => (o.scalar key).map fun value => (key.name, value)

end Options

end Showcase
