import Showcase.Log
import Showcase.Source.Marker
import Showcase.Source.Partition
import Showcase.Text.Lines
import Showcase.Warning

/-!
# Tagged sources

A source text together with the tags found in it. Scanning is a matter of lines: every
line is scanned for itself, a closed literal that is not blank gives a tag, a blank or an
unclosed one gives a warning, and both carry the number of the line, counted from one.
-/

namespace Showcase

/-- A tag and the line it was found on. -/
structure Tag where
  line : Nat
  text : String
  deriving DecidableEq, Repr, Inhabited

/-- A source text with its tags and warnings, each in order of appearance. -/
structure TaggedSource where
  text : String
  tags : List Tag
  warnings : List Warning
  deriving DecidableEq, Repr, Inhabited

namespace Marker.Finding

def tag? (line : Nat) : Marker.Finding → Option Tag
  | tag text => if Text.isBlankText text then none else some ⟨line, String.ofList text⟩
  | unterminated => none

def warning? (line : Nat) : Marker.Finding → Option Warning
  | tag text => if Text.isBlankText text then some (.emptyTag line) else none
  | unterminated => some (.unterminatedTag line)

end Marker.Finding

namespace Marker

/-- The findings of consecutive lines with their line numbers, the first line having the
number `line`. -/
def scanLines (m : Marker) : Nat → List (List Char) → List (Nat × Finding)
  | _, [] => []
  | line, l :: ls => (m.scanLine l).map (line, ·) ++ m.scanLines (line + 1) ls

end Marker

namespace TaggedSource

def parse (m : Marker) (text : String) : TaggedSource :=
  let findings := m.scanLines 1 (Text.lines text.toList)
  { text
    tags := findings.filterMap fun (line, f) => f.tag? line
    warnings := findings.filterMap fun (line, f) => f.warning? line }

@[simp] theorem text_parse (m : Marker) (text : String) : (parse m text).text = text := rfl

def parseLog (m : Marker) (source : TaggedSource) : List LogEntry :=
  source.warnings.map (fun w => ⟨.debug, s!"{m.name}: {w.message}"⟩) ++
    [⟨.debug, s!"found {source.tags.length} '{m.name}' tags in " ++
      s!"{source.text.utf8ByteSize} bytes of source"⟩]

def lineCount (source : TaggedSource) : Nat :=
  (Text.lines source.text.toList).length

def line? (source : TaggedSource) (line : Nat) : Option String :=
  match line with
  | 0 => none
  | n + 1 => ((Text.lines source.text.toList)[n]?).map String.ofList

/-- Whether some tag stands on the line. The tags are ordered by line, so the first one
that does not stand before the line decides. -/
def isTagged (source : TaggedSource) (line : Nat) : Bool :=
  let tags := source.tags.toArray
  match tags[partitionPoint tags fun tag => tag.line < line]? with
  | some tag => tag.line == line
  | none => false

end TaggedSource

end Showcase
