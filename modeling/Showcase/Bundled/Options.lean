import Showcase.Options.Basic

/-!
# Options for the bundled demos
-/

namespace Showcase.Bundled

/-- The name under which the bundled demo source is known. -/
def sourceName : String := "crates/demo-manual-ui/src/demos.rs"

/-- The options for browsing the bundled demo source. -/
def options : Options where
  marker := "demo_marker!"
  sourceName := sourceName
  repoUrl := "https://github.com/user/demo-manual-rs/blob/main/"

end Showcase.Bundled
