import Showcase.Text.Quoted

/-!
# Errors

Only loading and configuration can fail. Browsing itself has no errors: malformed markers
become warnings, and a line outside every section selects the root.
-/

namespace Showcase

/-- Why a file could not be read as text. -/
inductive FileError
  | notFound
  | notText
  | isDirectory
  deriving DecidableEq, Repr, Inhabited

namespace FileError

def message : FileError → String
  | notFound => "No such file or directory (os error 2)"
  | notText => "stream did not contain valid UTF-8"
  | isDirectory => "Is a directory (os error 21)"

end FileError

/-- Why a text could not be read as JSON of the expected shape, or a value not written. -/
inductive JsonError
  | malformed
  | mismatch
  | endOfText
  /-- A path that is no text, which JSON cannot hold. -/
  | notText
  deriving DecidableEq, Repr, Inhabited

/-- Why a browser could not be set up. -/
inductive BrowseError
  | blankMarker (marker : String)
  /-- A delimiter that cannot stand between the segments of a tag. -/
  | unusableDelimiter (delimiter : Char)
  /-- An options file that holds JSON other than an object. -/
  | notAnObject (file : String)
  | file (reason : FileError)
  | json (reason : JsonError)
  deriving DecidableEq, Repr, Inhabited

namespace BrowseError

def message : BrowseError → String
  | blankMarker m => s!"invalid marker '{m}': marker name must not be empty"
  | unusableDelimiter d =>
    s!"invalid options: path delimiter {Text.quotedLetter d} cannot separate tag segments"
  | notAnObject f => s!"invalid options: {f} does not hold a JSON object"
  | file reason => s!"I/O error: {reason.message}"
  | json .malformed => "JSON error: malformed text"
  | json .mismatch => "JSON error: value of the wrong shape"
  | json .endOfText => "JSON error: the text ends early"
  | json .notText => "JSON error: path contains invalid UTF-8 characters"

end BrowseError

end Showcase
