/-!
# The bundled demo source

The source text of the widget demos that come with the browser. It is what the code pane
shows, and its markers give the outline, so it is kept to the byte.
-/

namespace Showcase.Bundled

def demoSourceLines : List String := [
    "//! The widget demos shown by the browser.",
    "//!",
    "//! This file is also the source the browser indexes and displays, so every",
    "//! section below is tagged with its path in the table of contents.",
    "",
    "use demo_manual_core::BrowserOptions;",
    "use egui::\x7bColor32, Context, RichText, ScrollArea, Ui\x7d;",
    "",
    "use crate::demo_marker;",
    "use crate::markers::DemoMarkers;",
    "",
    "/// Source text of the demos, as displayed in the code view.",
    "pub const DEMO_SOURCE: &str = include_str!(\"demos.rs\");",
    "",
    "/// Options for browsing [`DEMO_SOURCE`].",
    "#[must_use]",
    "pub fn browser_options() -> BrowserOptions \x7b",
    "    BrowserOptions \x7b",
    "        marker: \"demo_marker!\".to_string(),",
    "        source_name: \"crates/demo-manual-ui/src/demos.rs\".to_string(),",
    "        repo_url: \"https://github.com/user/demo-manual-rs/blob/main/\".to_string(),",
    "        ..BrowserOptions::default()",
    "    \x7d",
    "\x7d",
    "",
    "#[derive(Debug, Clone, Copy, PartialEq, Eq)]",
    "enum Fruit \x7b",
    "    Apple,",
    "    Banana,",
    "    Cherry,",
    "\x7d",
    "",
    "#[derive(Debug, Clone, Copy, PartialEq, Eq)]",
    "enum SortColumn \x7b",
    "    Id,",
    "    Name,",
    "    Quantity,",
    "\x7d",
    "",
    "#[derive(Debug, Clone)]",
    "struct Item \x7b",
    "    id: u32,",
    "    name: &'static str,",
    "    quantity: u32,",
    "\x7d",
    "",
    "/// Values edited by the demo widgets.",
    "#[derive(Debug, Clone)]",
    "pub struct DemoState \x7b",
    "    clicks: u32,",
    "    checked: bool,",
    "    fruit: Fruit,",
    "    combo_index: usize,",
    "    slider_value: f32,",
    "    slider_int: i32,",
    "    drag_value: f64,",
    "    single_line: String,",
    "    multi_line: String,",
    "    columns: usize,",
    "    scroll_rows: usize,",
    "    items: Vec<Item>,",
    "    sort_column: SortColumn,",
    "    sort_ascending: bool,",
    "\x7d",
    "",
    "impl Default for DemoState \x7b",
    "    fn default() -> Self \x7b",
    "        Self \x7b",
    "            clicks: 0,",
    "            checked: true,",
    "            fruit: Fruit::Apple,",
    "            combo_index: 0,",
    "            slider_value: 0.5,",
    "            slider_int: 50,",
    "            drag_value: 1.0,",
    "            single_line: \"Hello, world!\".to_string(),",
    "            multi_line: \"Multi-line text\\nwith several\\nlines.\".to_string(),",
    "            columns: 3,",
    "            scroll_rows: 100,",
    "            items: vec![",
    "                Item \x7b id: 3, name: \"Mango\", quantity: 12 \x7d,",
    "                Item \x7b id: 1, name: \"Apple\", quantity: 7 \x7d,",
    "                Item \x7b id: 4, name: \"Kiwi\", quantity: 30 \x7d,",
    "                Item \x7b id: 2, name: \"Banana\", quantity: 2 \x7d,",
    "            ],",
    "            sort_column: SortColumn::Id,",
    "            sort_ascending: true,",
    "        \x7d",
    "    \x7d",
    "\x7d",
    "",
    "/// The window holding all demo sections.",
    "#[derive(Debug)]",
    "pub struct DemoWindow \x7b",
    "    markers: DemoMarkers,",
    "    state: DemoState,",
    "    pub open: bool,",
    "\x7d",
    "",
    "impl DemoWindow \x7b",
    "    #[must_use]",
    "    pub fn new(markers: DemoMarkers) -> Self \x7b",
    "        Self \x7b",
    "            markers,",
    "            state: DemoState::default(),",
    "            open: true,",
    "        \x7d",
    "    \x7d",
    "",
    "    pub fn markers(&self) -> &DemoMarkers \x7b",
    "        &self.markers",
    "    \x7d",
    "",
    "    pub fn show(&mut self, ctx: &Context) \x7b",
    "        self.markers.begin_frame();",
    "        let markers = &self.markers;",
    "        let state = &mut self.state;",
    "        egui::Window::new(\"Widget Demos\")",
    "            .open(&mut self.open)",
    "            .default_pos([16.0, 40.0])",
    "            .default_size([420.0, 600.0])",
    "            .show(ctx, |ui| \x7b",
    "                ScrollArea::vertical().show(ui, |ui| show_demos(markers, ui, state));",
    "            \x7d);",
    "    \x7d",
    "\x7d",
    "",
    "/// Draws every demo section.",
    "pub fn show_demos(markers: &DemoMarkers, ui: &mut Ui, state: &mut DemoState) \x7b",
    "    ui.label(\"Hover a section with \\\"Follow mouse\\\" enabled, or press its Code button.\");",
    "    ui.separator();",
    "    show_widgets(markers, ui, state);",
    "    show_layout(markers, ui, state);",
    "    show_tooltips(markers, ui);",
    "    show_tables(markers, ui, state);",
    "\x7d",
    "",
    "fn show_widgets(markers: &DemoMarkers, ui: &mut Ui, state: &mut DemoState) \x7b",
    "    demo_marker!(markers, ui, \"Widgets\", |ui: &mut Ui| \x7b",
    "        demo_marker!(markers, ui, \"Widgets/Basic\", |ui: &mut Ui| \x7b",
    "            demo_marker!(markers, ui, \"Widgets/Basic/Button\", |ui: &mut Ui| \x7b",
    "                ui.horizontal(|ui| \x7b",
    "                    if ui.button(\"Button\").clicked() \x7b",
    "                        state.clicks += 1;",
    "                    \x7d",
    "                    if state.clicks % 2 == 1 \x7b",
    "                        ui.label(\"Thanks for clicking me!\");",
    "                    \x7d",
    "                \x7d);",
    "            \x7d);",
    "",
    "            demo_marker!(markers, ui, \"Widgets/Basic/Checkbox\", |ui: &mut Ui| \x7b",
    "                ui.checkbox(&mut state.checked, \"checkbox\");",
    "            \x7d);",
    "",
    "            demo_marker!(markers, ui, \"Widgets/Basic/RadioButton\", |ui: &mut Ui| \x7b",
    "                ui.horizontal(|ui| \x7b",
    "                    ui.radio_value(&mut state.fruit, Fruit::Apple, \"apple\");",
    "                    ui.radio_value(&mut state.fruit, Fruit::Banana, \"banana\");",
    "                    ui.radio_value(&mut state.fruit, Fruit::Cherry, \"cherry\");",
    "                \x7d);",
    "            \x7d);",
    "",
    "            demo_marker!(markers, ui, \"Widgets/Basic/Combo\", |ui: &mut Ui| \x7b",
    "                const ITEMS: [&str; 4] = [\"AAAA\", \"BBBB\", \"CCCC\", \"DDDD\"];",
    "                egui::ComboBox::from_id_salt(\"demo_combo\")",
    "                    .selected_text(ITEMS[state.combo_index])",
    "                    .show_ui(ui, |ui| \x7b",
    "                        for (index, item) in ITEMS.iter().enumerate() \x7b",
    "                            ui.selectable_value(&mut state.combo_index, index, *item);",
    "                        \x7d",
    "                    \x7d);",
    "            \x7d);",
    "        \x7d);",
    "",
    "        demo_marker!(markers, ui, \"Widgets/Sliders\", |ui: &mut Ui| \x7b",
    "            ui.add(egui::Slider::new(&mut state.slider_value, 0.0..=1.0).text(\"float\"));",
    "            ui.add(egui::Slider::new(&mut state.slider_int, 0..=100).text(\"int\"));",
    "            ui.add(",
    "                egui::DragValue::new(&mut state.drag_value)",
    "                    .speed(0.01)",
    "                    .prefix(\"drag: \"),",
    "            );",
    "        \x7d);",
    "",
    "        demo_marker!(markers, ui, \"Widgets/Text Input\", |ui: &mut Ui| \x7b",
    "            ui.text_edit_singleline(&mut state.single_line);",
    "            ui.add(egui::TextEdit::multiline(&mut state.multi_line).desired_rows(3));",
    "            ui.label(format!(\"\x7b\x7d characters\", state.multi_line.chars().count()));",
    "        \x7d);",
    "",
    "        demo_marker!(markers, ui, \"Widgets/Trees\", |ui: &mut Ui| \x7b",
    "            for index in 0..3 \x7b",
    "                egui::CollapsingHeader::new(format!(\"Child \x7bindex\x7d\"))",
    "                    .id_salt((\"demo_tree\", index))",
    "                    .show(ui, |ui| \x7b",
    "                        ui.label(\"blah blah\");",
    "                        if ui.small_button(\"button\").clicked() \x7b",
    "                            log::info!(\"tree child \x7bindex\x7d clicked\");",
    "                        \x7d",
    "                    \x7d);",
    "            \x7d",
    "        \x7d);",
    "    \x7d);",
    "\x7d",
    "",
    "fn show_layout(markers: &DemoMarkers, ui: &mut Ui, state: &mut DemoState) \x7b",
    "    demo_marker!(markers, ui, \"Layout\", |ui: &mut Ui| \x7b",
    "        demo_marker!(markers, ui, \"Layout/Horizontal\", |ui: &mut Ui| \x7b",
    "            ui.horizontal(|ui| \x7b",
    "                ui.label(\"Normal buttons\");",
    "                let _ = ui.button(\"Banana\");",
    "                let _ = ui.button(\"Apple\");",
    "                let _ = ui.button(\"Corniflower\");",
    "            \x7d);",
    "            ui.horizontal_wrapped(|ui| \x7b",
    "                for index in 0..12 \x7b",
    "                    ui.label(format!(\"Item \x7bindex\x7d\"));",
    "                \x7d",
    "            \x7d);",
    "        \x7d);",
    "",
    "        demo_marker!(markers, ui, \"Layout/Columns\", |ui: &mut Ui| \x7b",
    "            ui.add(egui::Slider::new(&mut state.columns, 1..=5).text(\"columns\"));",
    "            ui.columns(state.columns, |columns| \x7b",
    "                for (index, column) in columns.iter_mut().enumerate() \x7b",
    "                    column.label(format!(\"Column \x7bindex\x7d\"));",
    "                    column.label(RichText::new(\"Some text\").weak());",
    "                \x7d",
    "            \x7d);",
    "        \x7d);",
    "",
    "        demo_marker!(markers, ui, \"Layout/Scrolling\", |ui: &mut Ui| \x7b",
    "            ui.add(egui::Slider::new(&mut state.scroll_rows, 10..=1000).text(\"rows\"));",
    "            let row_height = ui.text_style_height(&egui::TextStyle::Body);",
    "            ScrollArea::vertical()",
    "                .id_salt(\"demo_scrolling\")",
    "                .max_height(120.0)",
    "                .show_rows(ui, row_height, state.scroll_rows, |ui, rows| \x7b",
    "                    for row in rows \x7b",
    "                        ui.label(format!(\"Row \x7brow\x7d\"));",
    "                    \x7d",
    "                \x7d);",
    "        \x7d);",
    "    \x7d);",
    "\x7d",
    "",
    "fn show_tooltips(markers: &DemoMarkers, ui: &mut Ui) \x7b",
    "    demo_marker!(markers, ui, \"Tooltips\", |ui: &mut Ui| \x7b",
    "        ui.label(\"Hover me\").on_hover_text(\"I am a tooltip\");",
    "        ui.label(\"Hover me too\").on_hover_ui(|ui| \x7b",
    "            ui.label(RichText::new(\"Rich tooltip\").color(Color32::LIGHT_BLUE));",
    "            ui.label(\"with several lines.\");",
    "        \x7d);",
    "    \x7d);",
    "\x7d",
    "",
    "fn show_tables(markers: &DemoMarkers, ui: &mut Ui, state: &mut DemoState) \x7b",
    "    demo_marker!(markers, ui, \"Tables\", |ui: &mut Ui| \x7b",
    "        demo_marker!(markers, ui, \"Tables/Sorting\", |ui: &mut Ui| \x7b",
    "            ui.label(\"Click a column header to sort.\");",
    "            egui::Grid::new(\"demo_sorting_table\")",
    "                .striped(true)",
    "                .num_columns(3)",
    "                .show(ui, |ui| \x7b",
    "                    for (column, label) in [",
    "                        (SortColumn::Id, \"ID\"),",
    "                        (SortColumn::Name, \"Name\"),",
    "                        (SortColumn::Quantity, \"Quantity\"),",
    "                    ] \x7b",
    "                        let arrow = match (state.sort_column == column, state.sort_ascending) \x7b",
    "                            (true, true) => \" ^\",",
    "                            (true, false) => \" v\",",
    "                            (false, _) => \"\",",
    "                        \x7d;",
    "                        if ui.button(format!(\"\x7blabel\x7d\x7barrow\x7d\")).clicked() \x7b",
    "                            state.sort_ascending =",
    "                                state.sort_column != column || !state.sort_ascending;",
    "                            state.sort_column = column;",
    "                        \x7d",
    "                    \x7d",
    "                    ui.end_row();",
    "",
    "                    sort_items(&mut state.items, state.sort_column, state.sort_ascending);",
    "                    for item in &state.items \x7b",
    "                        ui.label(item.id.to_string());",
    "                        ui.label(item.name);",
    "                        ui.label(item.quantity.to_string());",
    "                        ui.end_row();",
    "                    \x7d",
    "                \x7d);",
    "        \x7d);",
    "    \x7d);",
    "\x7d",
    "",
    "fn sort_items(items: &mut [Item], column: SortColumn, ascending: bool) \x7b",
    "    items.sort_by(|a, b| \x7b",
    "        let ordering = match column \x7b",
    "            SortColumn::Id => a.id.cmp(&b.id),",
    "            SortColumn::Name => a.name.cmp(b.name),",
    "            SortColumn::Quantity => a.quantity.cmp(&b.quantity),",
    "        \x7d;",
    "        if ascending \x7b",
    "            ordering",
    "        \x7d else \x7b",
    "            ordering.reverse()",
    "        \x7d",
    "    \x7d);",
    "\x7d",
    "",
    "#[cfg(test)]",
    "mod tests \x7b",
    "    use super::*;",
    "    use demo_manual_core::\x7bAnnotatedSource, MarkerPattern, TocTree\x7d;",
    "",
    "    fn demo_tree() -> TocTree \x7b",
    "        let options = browser_options();",
    "        let pattern = MarkerPattern::from_options(&options).unwrap();",
    "        TocTree::from_source(&AnnotatedSource::parse(DEMO_SOURCE, &pattern), '/')",
    "    \x7d",
    "",
    "    #[test]",
    "    fn test_demo_source_is_indexed() \x7b",
    "        let tree = demo_tree();",
    "        for path in [",
    "            \"Widgets\",",
    "            \"Widgets/Basic/Button\",",
    "            \"Widgets/Sliders\",",
    "            \"Layout/Columns\",",
    "            \"Tooltips\",",
    "            \"Tables/Sorting\",",
    "        ] \x7b",
    "            assert!(tree.find_by_path(path).is_some(), \"missing \x7bpath\x7d\");",
    "        \x7d",
    "        assert!(tree.warnings().is_empty());",
    "    \x7d",
    "",
    "    #[test]",
    "    fn test_sort_items() \x7b",
    "        let mut items = DemoState::default().items;",
    "        sort_items(&mut items, SortColumn::Quantity, false);",
    "        let quantities: Vec<u32> = items.iter().map(|item| item.quantity).collect();",
    "        assert_eq!(quantities, vec![30, 12, 7, 2]);",
    "",
    "        sort_items(&mut items, SortColumn::Name, true);",
    "        assert_eq!(items[0].name, \"Apple\");",
    "    \x7d",
    "",
    "    #[test]",
    "    fn test_demo_window_draws_headless() \x7b",
    "        let ctx = egui::Context::default();",
    "        let mut window = DemoWindow::new(DemoMarkers::default());",
    "        for _ in 0..2 \x7b",
    "            let _ = ctx.run(egui::RawInput::default(), |ctx| window.show(ctx));",
    "        \x7d",
    "        assert!(window.open);",
    "    \x7d",
    "\x7d"]

/-- The text of the bundled demo source. Every line ends in a line feed. -/
def sourceText : String :=
  String.join (demoSourceLines.map fun line => line ++ "\n")

end Showcase.Bundled
