import Showcase.Proofs.Outline.Warnings
import Showcase.Proofs.Session.CursorMoves
import Showcase.Proofs.Sorting
import Showcase.Proofs.Source.WellFormed

/-!
# The warnings of a session

A source is indexed in two stages, and each of them warns: the scan of its text, and the
outline that is made of the tags found. Both lists are in order of lines already. A session
sorts the one put behind the other by line, and sorting is stable, so what it gives out is a
merge: on every line first what the scan has to say, then what the outline has.

Both stages warn about tags without a path. The scan does so for a blank one, and takes it
out; the outline does so for one with delimiters and blanks only. Told by the literals that
stand in the text, that is one warning for each of them that has nothing in it but delimiters
and blanks, whichever stage finds out.
-/

namespace Showcase

/-! ## The literals of a text -/

namespace Marker

/-- The closed literal of a finding, blank or not, as a tag. -/
def Finding.literal? (line : Nat) : Finding → Option Tag
  | tag text => some ⟨line, String.ofList text⟩
  | unterminated => none

/-- All closed literals that a marker finds in a text. -/
def literals (m : Marker) (text : String) : List Tag :=
  (m.scanLines 1 (Text.lines text.toList)).filterMap fun (line, f) => f.literal? line

theorem Finding.line_of_literal? {f : Finding} {line : Nat} {tag : Tag}
    (h : f.literal? line = some tag) : tag.line = line := by
  cases f with
  | tag text =>
      obtain rfl := Option.some.inj h
      rfl
  | unterminated => cases h

theorem pairwise_literals (m : Marker) (text : String) :
    (m.literals text).Pairwise fun a b => a.line ≤ b.line :=
  TaggedSource.pairwise_filterMap_scanLines Finding.literal?
    (fun _ _ _ => Finding.line_of_literal?) m 1 _

end Marker

namespace Tag

/-- Whether the scan of a text warns about a tag. -/
def isBlank (tag : Tag) : Bool :=
  Text.isBlankText tag.text.toList

/-- Whether a tag has nothing in it but delimiters and blanks. -/
def isBare (d : Char) (tag : Tag) : Bool :=
  Text.isBare d tag.text.toList

theorem isBare_of_isBlank {tag : Tag} (d : Char) (h : tag.isBlank = true) : tag.isBare d = true :=
  Text.isBare_of_isBlankText d h

end Tag

/-- The warnings that say of tags that they have no path. -/
def Warning.emptyTags (tags : List Tag) : List Warning :=
  tags.map fun tag => .emptyTag tag.line

theorem Warning.eq_emptyTag {w : Warning} (h : w.isEmptyTag = true) : w = .emptyTag w.line := by
  cases w with
  | emptyTag line => rfl
  | unterminatedTag line => cases h
  | duplicatePath line path => cases h

namespace Marker.Finding

theorem tag?_eq_filter (f : Finding) (line : Nat) :
    f.tag? line = (f.literal? line).filter fun tag => !tag.isBlank := by
  cases f with
  | unterminated => rfl
  | tag cs =>
      rw [tag?, literal?, Option.filter_some, Tag.isBlank, String.toList_ofList]
      cases Text.isBlankText cs with
      | true => rfl
      | false => rfl

theorem filter_isEmptyTag_warning? (f : Finding) (line : Nat) :
    (f.warning? line).filter Warning.isEmptyTag =
      ((f.literal? line).filter Tag.isBlank).map fun tag => .emptyTag tag.line := by
  cases f with
  | unterminated => rfl
  | tag cs =>
      rw [warning?, literal?, Option.filter_some, Tag.isBlank, String.toList_ofList]
      cases Text.isBlankText cs with
      | true => rfl
      | false => rfl

end Marker.Finding

theorem TaggedSource.tags_parse (m : Marker) (text : String) :
    (parse m text).tags = (m.literals text).filter fun tag => !tag.isBlank := by
  rw [Marker.literals, List.filter_filterMap]
  exact List.filterMap_congr fun found _ => found.2.tag?_eq_filter found.1

theorem TaggedSource.filter_isEmptyTag_parse (m : Marker) (text : String) :
    (parse m text).warnings.filter Warning.isEmptyTag =
      Warning.emptyTags ((m.literals text).filter Tag.isBlank) := by
  rw [parse, Marker.literals, List.filter_filterMap, List.filter_filterMap, Warning.emptyTags,
    List.map_filterMap]
  exact List.filterMap_congr fun found _ => found.2.filter_isEmptyTag_warning? found.1

/-- The outline warns about the tags that have nothing but delimiters and blanks. -/
theorem Outline.filter_isEmptyTag_ofTags (tags : List Tag) (d : Char) :
    (Outline.ofTags tags d).warnings.filter Warning.isEmptyTag =
      Warning.emptyTags (tags.filter (Tag.isBare d)) := by
  have h_bare : (fun tag : Tag => decide (Catalogue.addressOf d tag = [])) = Tag.isBare d := by
    funext tag
    rw [Catalogue.addressOf, Tag.isBare, Bool.eq_iff_iff, decide_eq_true_eq,
      Text.segments_eq_nil_iff]
  rw [Outline.toSections_ofTags, ← h_bare]
  exact Catalogue.filter_isEmptyTag_warningsFrom d [] tags

/-! ## The merge -/

namespace Session

variable {ε : Type}

theorem perm_warnings (s : Session ε) :
    s.warnings.Perm (s.source.warnings ++ s.outline.warnings) :=
  List.mergeSort_perm _ _

theorem pairwise_warnings (s : Session ε) : s.warnings.Pairwise fun v w => v.line ≤ w.line :=
  pairwise_mergeSort_le Warning.line _

/-- On every line the warnings of the scan come first. -/
theorem filter_line_warnings (s : Session ε) (line : Nat) :
    s.warnings.filter (fun w => w.line = line) =
      s.source.warnings.filter (fun w => w.line = line) ++
        s.outline.warnings.filter (fun w => w.line = line) := by
  rw [← List.filter_append]
  refine filter_mergeSort_le (List.pairwise_of_forall_mem_list fun v hv w hw => ?_)
  have h_v : v.line = line := of_decide_eq_true (List.mem_filter.1 hv).2
  have h_w : w.line = line := of_decide_eq_true (List.mem_filter.1 hw).2
  rw [h_v, h_w]

/-- If the stages warn about the tags of two parts of a list in order, the session warns about
those of the whole list. -/
theorem filter_isEmptyTag_warnings (s : Session ε) {tags : List Tag} {p : Tag → Bool}
    (h_tags : tags.Pairwise fun a b => a.line ≤ b.line)
    (h_source : s.source.warnings.filter Warning.isEmptyTag = Warning.emptyTags (tags.filter p))
    (h_outline : s.outline.warnings.filter Warning.isEmptyTag =
      Warning.emptyTags (tags.filter fun tag => !p tag)) :
    s.warnings.filter Warning.isEmptyTag = Warning.emptyTags tags := by
  have h_perm := s.perm_warnings.filter Warning.isEmptyTag
  rw [List.filter_append, h_source, h_outline, Warning.emptyTags, Warning.emptyTags,
    ← List.map_append] at h_perm
  have h_all : (s.warnings.filter Warning.isEmptyTag).Perm (Warning.emptyTags tags) :=
    h_perm.trans ((List.filter_append_perm p tags).map _)
  -- both lists are in order of lines, and the line tells such a warning
  have h_antisymm : ∀ v w, v ∈ s.warnings.filter Warning.isEmptyTag → w ∈ Warning.emptyTags tags →
      v.line ≤ w.line → w.line ≤ v.line → v = w := by
    intro v w hv hw h_le h_ge
    obtain ⟨tag, -, rfl⟩ := List.mem_map.1 hw
    rw [Warning.eq_emptyTag (List.mem_filter.1 hv).2, Nat.le_antisymm h_le h_ge]
    rfl
  exact List.Perm.eq_of_pairwise h_antisymm (s.pairwise_warnings.filter _)
    (List.pairwise_map.2 h_tags) h_all

end Session

/-- The warnings of a session are those of the scan and of the outline merged by line. None is
lost and none is doubled, the warnings of either stage keep their order, and those of the scan
come first on a line that both warn about. Of the literals in the text, the scan warns about
the blank ones and takes them out, the outline about those left that have nothing but delimiters
and blanks, and so the session warns about each of either kind once. -/
theorem Session.warnings_play {ε : Type} [Editor ε] {text : String} {editor : ε}
    {options : Options} {first : Session ε} (h : ofText text editor options = .ok first)
    (turns : List (Turn ε)) :
    let s := first.play turns
    s.warnings.Pairwise (fun v w => v.line ≤ w.line) ∧
      s.warnings.Perm (s.source.warnings ++ s.outline.warnings) ∧
      s.source.warnings.Sublist s.warnings ∧ s.outline.warnings.Sublist s.warnings ∧
      (∀ line, s.warnings.filter (fun w => w.line = line) =
        s.source.warnings.filter (fun w => w.line = line) ++
          s.outline.warnings.filter (fun w => w.line = line)) ∧
      ∃ marker, Marker.ofText options.marker = .ok marker ∧
        let literals := marker.literals text
        let isBare := Tag.isBare options.pathDelimiter
        s.source.tags = literals.filter (fun tag => !tag.isBlank) ∧
          s.source.warnings.filter Warning.isEmptyTag =
            Warning.emptyTags (literals.filter Tag.isBlank) ∧
          s.outline.warnings.filter Warning.isEmptyTag =
            Warning.emptyTags (s.source.tags.filter isBare) ∧
          s.warnings.filter Warning.isEmptyTag = Warning.emptyTags (literals.filter isBare) := by
  intro s
  obtain ⟨marker, h_marker, rfl⟩ := ofText_eq_ok h
  have h_source : s.source = TaggedSource.parse marker text := source_play _ turns
  have h_outline : s.outline = Outline.ofTags s.source.tags options.pathDelimiter := by
    rw [h_source]
    exact outline_play _ turns
  have h_tags : s.source.tags = (marker.literals text).filter fun tag => !tag.isBlank := by
    rw [h_source, TaggedSource.tags_parse]
  have h_literals := marker.pairwise_literals text
  have h_scanned : s.source.warnings.Pairwise fun v w => v.line ≤ w.line := by
    rw [h_source]
    exact TaggedSource.pairwise_filterMap_scanLines Marker.Finding.warning?
      (fun _ _ _ => Marker.Finding.line_of_warning?) marker 1 _
  have h_outlined : s.outline.warnings.Pairwise fun v w => v.line ≤ w.line := by
    rw [h_outline, Outline.toSections_ofTags]
    refine Catalogue.pairwise_line_warningsFrom _ [] ?_
    rw [h_tags]
    exact h_literals.filter _
  have h_blank : s.source.warnings.filter Warning.isEmptyTag =
      Warning.emptyTags ((marker.literals text).filter Tag.isBlank) := by
    rw [h_source, TaggedSource.filter_isEmptyTag_parse]
  have h_bare : s.outline.warnings.filter Warning.isEmptyTag =
      Warning.emptyTags (s.source.tags.filter (Tag.isBare options.pathDelimiter)) := by
    rw [h_outline, Outline.filter_isEmptyTag_ofTags]
  refine ⟨s.pairwise_warnings, s.perm_warnings,
    sublist_mergeSort_le h_scanned (List.sublist_append_left _ _),
    sublist_mergeSort_le h_outlined (List.sublist_append_right _ _), s.filter_line_warnings,
    marker, h_marker, h_tags, h_blank, h_bare, ?_⟩
  apply s.filter_isEmptyTag_warnings (h_literals.filter _)
  · have h_all : ((marker.literals text).filter Tag.isBlank).filter
        (Tag.isBare options.pathDelimiter) = (marker.literals text).filter Tag.isBlank :=
      List.filter_eq_self.2 fun _ h_tag => Tag.isBare_of_isBlank _ (List.mem_filter.1 h_tag).2
    rw [h_blank, List.filter_comm, h_all]
  · rw [h_bare, h_tags, List.filter_comm]

/-- On the first line both stages warn, the scan about the second literal and an open one, the
outline about the third and the fourth. -/
theorem Session.warnings_play_both_stages :
    ∃ (text : String) (first : Session CodePane),
      text = "M(\"A\"); M(\" \"); M(\"/ /\"); M(\"A\"); M(\"B);\nM(\"\"); M(\"A\");\n" ∧
        ofText text {} { marker := "M" } = .ok first ∧
        (first.play [.perform .followCursor]).warnings.filter (fun w => w.line = 1) =
          [.emptyTag 1, .unterminatedTag 1, .emptyTag 1, .duplicatePath 1 "A"] ∧
        (first.play [.perform .followCursor]).warnings.filter Warning.isEmptyTag =
          [.emptyTag 1, .emptyTag 1, .emptyTag 2] := by
  let text := "M(\"A\"); M(\" \"); M(\"/ /\"); M(\"A\"); M(\"B);\nM(\"\"); M(\"A\");\n"
  have h_marker : Marker.ofText "M" = .ok ⟨"M", by decide⟩ := rfl
  have h_first : ofText text ({} : CodePane) { marker := "M" } =
      .ok (start (TaggedSource.parse ⟨"M", by decide⟩ text) {} { marker := "M" }) := rfl
  obtain ⟨-, -, -, -, h_line, marker, h_eq, -, -, -, h_empty⟩ :=
    Session.warnings_play h_first [.perform .followCursor]
  obtain rfl := Except.ok.inj (h_marker.symm.trans h_eq)
  exact ⟨text, _, rfl, h_first, (h_line 1).trans (by decide +kernel),
    h_empty.trans (by decide +kernel)⟩

end Showcase
