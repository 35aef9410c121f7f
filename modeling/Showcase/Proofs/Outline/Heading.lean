import Showcase.Proofs.Outline.Occurrence
import Showcase.Proofs.Outline.Prefixes

/-!
# Headings

The demos put a heading over the section of a tag, and find its text in the tag alone, by
looking for a segment from the right. The outline goes down through all segments of the tag
from the left, and a repeat takes its title from the section it repeats. Both come to the last
segment of the tag: that is the last entry of its address, and the address is what a section
and its repeats have in common.

What a tag adds to an outline is read off the size before and after it. Tags that come later
put nodes behind these and children into them, so the nodes made for one occurrence of a tag
are a stretch of the finished outline.
-/

namespace Showcase

/-- The nodes that an outline has because of one occurrence of a tag, the one behind the tags
`before`. -/
def Outline.nodesFor (d : Char) (before : List Tag) (tag : Tag) (after : List Tag) :
    List OutlineNode :=
  ((Outline.ofTags (before ++ tag :: after) d).nodes.toList.take
    (Outline.ofTags (before ++ [tag]) d).size).drop (Outline.ofTags before d).size

namespace Catalogue

variable {d : Char} {before after : List Tag} {tag : Tag}

theorem size_ofTags (d : Char) (tags : List Tag) :
    (Outline.ofTags tags d).size = (ofTags d tags).length := by
  rw [Outline.toSections_ofTags, size_sections]

/-- The nodes made for a tag are those of the entries that it adds. -/
theorem nodesFor_eq_mapIdx {new : List Entry} (after : List Tag)
    (h_new : ofTags d (before ++ [tag]) = ofTags d before ++ new) :
    Outline.nodesFor d before tag after =
      new.mapIdx fun i => node d (ofTags d (before ++ tag :: after))
        (i + (ofTags d before).length) := by
  obtain ⟨more, h_more, -⟩ := exists_foldl_add_eq_append d (ofTags d (before ++ [tag])) after
  have h_all : ofTags d (before ++ tag :: after) = ofTags d before ++ new ++ more := by
    rw [← h_new, ← h_more, ← List.singleton_append, ← List.append_assoc, ofTags, List.foldl_append]
    rfl
  have h_nodes : (Outline.ofTags (before ++ tag :: after) d).nodes.toList =
      (ofTags d (before ++ tag :: after)).mapIdx
        (node d (ofTags d (before ++ tag :: after))) := by
    rw [Outline.toSections_ofTags]
    rfl
  rw [Outline.nodesFor, h_nodes, size_ofTags, size_ofTags, h_new]
  generalize node d (ofTags d (before ++ tag :: after)) = f
  rw [h_all, List.mapIdx_append, List.mapIdx_append, List.take_left' (by simp),
    List.drop_left' (by simp)]

theorem nodesFor_of_address_eq_nil (before after : List Tag) (h : addressOf d tag = []) :
    Outline.nodesFor d before tag after = [] := by
  have h_new : ofTags d (before ++ [tag]) = ofTags d before ++ [] := by
    rw [ofTags_concat, add_of_address_eq_nil h, List.append_nil]
  rw [nodesFor_eq_mapIdx after h_new, List.mapIdx_nil]

/-- The last of the nodes made for a tag is the own one of the tag. -/
theorem exists_nodesFor_eq_concat (before after : List Tag) (h : addressOf d tag ≠ []) :
    ∃ way i, Outline.nodesFor d before tag after =
        way ++ [node d (ofTags d (before ++ tag :: after)) i (tagEntry d (ofTags d before) tag)] ∧
      ∀ m ∈ way, m.origin = .synthetic := by
  obtain ⟨way, h_add, h_way⟩ := exists_add_eq_append (ofTags d before) h
  rw [← ofTags_concat, List.append_assoc] at h_add
  refine ⟨_, _, (nodesFor_eq_mapIdx after h_add).trans List.mapIdx_concat, fun m hm => ?_⟩
  obtain ⟨i, hi, rfl⟩ := List.mem_mapIdx.1 hm
  exact (h_way _ (List.getElem_mem hi)).2.1

theorem lastSegment_eq_title {tag : Tag} (h : addressOf '/' tag ≠ []) (l : Catalogue) :
    Text.lastSegment tag.text = (tagEntry '/' l tag).title := by
  obtain ⟨last, h_last⟩ := Option.ne_none_iff_exists'.1 (mt List.getLast?_eq_none_iff.1 h)
  rw [Text.lastSegment_eq, Entry.title, tagEntry, ← addressOf, h_last]
  rfl

end Catalogue

open Catalogue in
/-- A tag with a segment is titled in the outline as it is over its section: the last node made
for it, and the only one that is not synthetic, is its own, a repeat or not, and has the last
segment of the tag as its title. A tag without a segment, which is a heading as a whole, has no
node at all. -/
theorem Outline.title_nodesFor (before after : List Tag) (tag : Tag) :
    (addressOf '/' tag ≠ [] →
      ∃ way n, Outline.nodesFor '/' before tag after = way ++ [n] ∧
        (∀ m ∈ way, m.origin = .synthetic) ∧ n.origin ≠ .synthetic ∧ n.line = tag.line ∧
        n.path = pathOf '/' (addressOf '/' tag) ∧ n.title = Text.lastSegment tag.text) ∧
      (addressOf '/' tag = [] →
        Text.lastSegment tag.text = tag.text ∧ Outline.nodesFor '/' before tag after = []) := by
  constructor
  · intro h
    obtain ⟨way, i, h_nodes, h_way⟩ := exists_nodesFor_eq_concat before after h
    exact ⟨way, _, h_nodes, h_way, origin_tagEntry_ne '/' _ tag, rfl, rfl,
      (lastSegment_eq_title h _).symm⟩
  · intro h
    refine ⟨?_, nodesFor_of_address_eq_nil before after h⟩
    rw [Text.lastSegment_eq, ← addressOf, h]
    rfl

/-- The tag on line 2 has a wide blank and trailing delimiters, and repeats `A/B`; the one on
line 3 has nothing but delimiters and blanks. -/
theorem Outline.title_nodesFor_repeat :
    ∃ (before : List Tag) (tag bare : Tag) (way : List OutlineNode) (n : OutlineNode),
      before = [⟨1, "A/B"⟩] ∧ tag = ⟨2, " A/\u3000B/ /"⟩ ∧ bare = ⟨3, "/ /"⟩ ∧
        Outline.nodesFor '/' before tag [bare] = way ++ [n] ∧ n.origin = .duplicate ∧
        n.title = Text.lastSegment tag.text ∧ Text.lastSegment tag.text = "B" ∧
        Text.lastSegment bare.text = bare.text ∧
        Outline.nodesFor '/' (before ++ [tag]) bare [] = [] := by
  have h_named : Catalogue.addressOf '/' ⟨2, " A/\u3000B/ /"⟩ ≠ [] := by decide +kernel
  have h_bare : Catalogue.addressOf '/' ⟨3, "/ /"⟩ = [] := by decide +kernel
  obtain ⟨way, n, h_nodes, -, -, -, -, h_title⟩ :=
    (Outline.title_nodesFor [⟨1, "A/B"⟩] [⟨3, "/ /"⟩] ⟨2, " A/\u3000B/ /"⟩).1 h_named
  obtain ⟨h_whole, h_none⟩ :=
    (Outline.title_nodesFor [⟨1, "A/B"⟩, ⟨2, " A/\u3000B/ /"⟩] [] ⟨3, "/ /"⟩).2 h_bare
  have h_own : Outline.nodesFor '/' [⟨1, "A/B"⟩] ⟨2, " A/\u3000B/ /"⟩ [⟨3, "/ /"⟩] =
      [] ++ [⟨"B", "A/B", 2, 2, .duplicate, some ⟨1⟩, []⟩] := by decide +kernel
  obtain ⟨rfl, h_single⟩ := List.append_inj' (h_own.symm.trans h_nodes) rfl
  obtain rfl := List.singleton_inj.1 h_single
  exact ⟨_, _, _, _, _, rfl, rfl, rfl, h_nodes, rfl, h_title, h_title.symm, h_whole, h_none⟩

end Showcase
