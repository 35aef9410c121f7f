import Showcase.Bundled.DemoSource
import Showcase.Bundled.Options
import Showcase.Demo.Values
import Showcase.Event
import Showcase.Source.Tagged
import Showcase.Text.Path

/-!
# The demo sections

The demo window holds a fixed tree of sections. A section is known by its tag, shows the
last segment of the tag as its title, and holds either further sections or widgets. Its
marker stands in the bundled demo source, and the site that it reports is found there.
-/

namespace Showcase

/-- What a section holds besides sections. -/
inductive SectionBody
  | sections
  | button
  | checkbox
  | radioButtons
  | combo
  | sliders
  | textInput
  | trees
  | horizontal
  | columns
  | scrolling
  | tooltips
  | sorting
  deriving DecidableEq, Repr, Inhabited

/-- A section of the demo window. -/
inductive DemoSection
  | mk (tag : String) (body : SectionBody) (inner : List DemoSection)
  deriving Repr, Inhabited

namespace DemoSection

def tag : DemoSection → String
  | mk tag _ _ => tag

/-- The sections of the demo window, in the order in which they are drawn. -/
def catalogue : List DemoSection := [
  .mk "Widgets" .sections [
    .mk "Widgets/Basic" .sections [
      .mk "Widgets/Basic/Button" .button [],
      .mk "Widgets/Basic/Checkbox" .checkbox [],
      .mk "Widgets/Basic/RadioButton" .radioButtons [],
      .mk "Widgets/Basic/Combo" .combo []],
    .mk "Widgets/Sliders" .sliders [],
    .mk "Widgets/Text Input" .textInput [],
    .mk "Widgets/Trees" .trees []],
  .mk "Layout" .sections [
    .mk "Layout/Horizontal" .horizontal [],
    .mk "Layout/Columns" .columns [],
    .mk "Layout/Scrolling" .scrolling []],
  .mk "Tooltips" .tooltips [],
  .mk "Tables" .sections [
    .mk "Tables/Sorting" .sorting []]]

end DemoSection

namespace Bundled

def marker : Marker := ⟨"demo_marker!", by decide⟩

/-- The bundled demo source, scanned for its own marker. -/
def source : TaggedSource :=
  TaggedSource.parse marker sourceText

end Bundled

namespace DemoSection

def siteOf (tag : String) : SectionSite :=
  { file := Bundled.sourceName
    line := ((Bundled.source.tags.find? (·.text == tag)).map (·.line)).getD 0
    title := tag }

end DemoSection

end Showcase
