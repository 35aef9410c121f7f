import Showcase.Browser.Basic
import Showcase.Bundled.Readme
import Showcase.Options.Read

/-!
# Opening a browser

A browser is opened over the bundled demos, with the bundled options or with options that
replace them, or over any other source text.
-/

namespace Showcase

/-- What came of opening a browser, and what was reported on the way. -/
structure Opening where
  result : Except BrowseError Browser
  log : List LogEntry

namespace Browser

def textLog (s : Session CodePane) : List LogEntry :=
  match Marker.ofText s.options.marker with
  | .ok marker => s.openLog marker none
  | .error _ => []

def openText (text readme : String) (options : Options) : Opening :=
  match Session.ofText text ({} : CodePane) options with
  | .error e => ⟨.error e, []⟩
  | .ok s => ⟨.ok (ofSession s readme), textLog s ++ Bridge.registeredLog⟩

def openBundled (options : Options) : Opening :=
  match Session.ofText Bundled.sourceText ({} : CodePane) options with
  | .error e => ⟨.error e, []⟩
  | .ok s =>
    let warnings := s.warnings.map fun w => ⟨.warn, s!"demo source: {w.message}"⟩
    ⟨.ok (ofSession s Bundled.readme),
      textLog s ++ warnings ++ [⟨.info, "demo-manual initialized"⟩] ++ Bridge.registeredLog⟩

/-- Opens a browser over the bundled demos, with the options that the file `name` replaces if
there is one. -/
def openWithFile (name : String) (file : FileContent) : Opening :=
  if file.isMissing then
    let opening := openBundled Bundled.options
    { opening with
      log := ⟨.info, s!"{name} not found, using default options"⟩ :: opening.log }
  else
    let loading : List LogEntry := [⟨.info, s!"loading options from {name}"⟩]
    let loaded := Bundled.options.loadOnto name file
    match loaded with
    | .error e => ⟨.error e, loading⟩
    | .ok options =>
      let opening := openBundled options
      { opening with log := loading ++ Options.loadLog name loaded ++ opening.log }

end Browser

end Showcase
