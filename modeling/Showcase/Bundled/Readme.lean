/-!
# The bundled readme

The text of the readme window, kept to the byte.
-/

namespace Showcase.Bundled

def readmeLines : List String := [
    "# demo-manual-rs",
    "",
    "An interactive browser for immediate-mode widget demos. It shows live egui",
    "widget demos next to the source code that implements them, and keeps the",
    "two in sync.",
    "",
    "## Using the browser",
    "",
    "- **Code**: every demo section has a *Code* button. Pressing it moves the",
    "  code view to the section's source and selects it in the table of contents.",
    "- **Follow mouse**: with follow mode on, the table of contents tracks the",
    "  demo section under the mouse pointer. The code view cursor stays where it",
    "  is, so hovering never fights an explicit jump.",
    "- **Table of contents**: click an entry to move the code view to it. The",
    "  search box filters entries by title, ignoring case, and opens the parents",
    "  of every match.",
    "- **View on GitHub**: opens the browsed source at the current line.",
    "",
    "## How sections are found",
    "",
    "Demo sections are tagged in the source with a marker call whose first",
    "string argument is a `/`-separated path:",
    "",
    "```rust",
    "demo_marker!(markers, ui, \"Widgets/Basic/Button\", |ui| \x7b",
    "    if ui.button(\"Button\").clicked() \x7b /* ... */ \x7d",
    "\x7d);",
    "```",
    "",
    "The same convention indexes Dear ImGui's `imgui_demo.cpp`, whose sections",
    "are tagged with `IMGUI_DEMO_MARKER(\"Widgets/Basic/Button\")`. That is the",
    "default marker of `demo-manual-core`.",
    "",
    "Paths that are never tagged themselves (`Widgets/Basic` above, if only its",
    "children are tagged) still show up as entries, pointing at their first",
    "child. A path tagged more than once gets one entry per occurrence.",
    "",
    "## Crates",
    "",
    "| Crate | Contents |",
    "|-------|----------|",
    "| `demo-manual-core` | Marker parsing, table of contents, demo events, synchronization. No GUI dependency. |",
    "| `demo-manual-ui` | egui demo window, code view, table of contents panel, readme window. |",
    "| `demo-manual` | Window and GPU setup, `init` / `show`. |",
    "",
    "## Running",
    "",
    "```sh",
    "cargo run -p demo-manual --example demo_browser",
    "cargo run -p demo-manual --example demo_browser -- options.json",
    "```",
    "",
    "Set `RUST_LOG=debug` to see indexing warnings and navigation misses.",
    "",
    "## Options",
    "",
    "Options are read from JSON. Keys not present keep the bundled demo's values.",
    "",
    "```json",
    "\x7b",
    "  \"marker\": \"demo_marker!\",",
    "  \"path_delimiter\": \"/\",",
    "  \"cursor_context_lines\": 3,",
    "  \"follow_on_start\": true,",
    "  \"source_name\": \"crates/demo-manual-ui/src/demos.rs\",",
    "  \"repo_url\": \"https://github.com/user/demo-manual-rs/blob/main/\",",
    "  \"save_path\": null,",
    "  \"window_title\": \"Demo Code\"",
    "\x7d",
    "```",
    "",
    "With the `save-source` feature the code view can be edited and saved to",
    "`save_path`."]

/-- The text of the bundled readme. Every line ends in a line feed. -/
def readme : String :=
  String.join (readmeLines.map fun line => line ++ "\n")

end Showcase.Bundled
