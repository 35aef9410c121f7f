import Showcase.Proofs.Outline.Prefixes

/-!
# Building an outline from its own entries

The nodes that stand for tags can be written as tags again: each has a line and a path. The
path has the address of the tag that the node was made for, because the address can be read
back from its joined form, and line and address are all that matters of a tag. A tag without
a node has no address and leaves nothing but a warning about itself. So an outline built
from the entries of another is that other one, without those warnings.
-/

namespace Showcase

/-- The nodes that stand for tags, written as tags. -/
def Sections.entries (s : Sections) : List Tag :=
  s.tagNodes.map fun n => ⟨n.line, n.path⟩

namespace Catalogue

/-- A tag with the path that its section is known by. -/
def normalForm (d : Char) (tag : Tag) : Tag where
  line := tag.line
  text := pathOf d (addressOf d tag)

variable {d : Char} {l : Catalogue}

/-! ## The normal form of a tag -/

theorem addressOf_normalForm (d : Char) (tag : Tag) :
    addressOf d (normalForm d tag) = addressOf d tag := by
  rw [addressOf, normalForm, String.toList_ofList]
  exact Text.segments_joinWith fun _ hs => isSegment_of_mem_addressOf hs

theorem add_normalForm (d : Char) (l : Catalogue) (tag : Tag) :
    add d l (normalForm d tag) = add d l tag := by
  rw [add, add, addressOf_normalForm]
  rfl

theorem tagWarnings_normalForm (d : Char) (l : Catalogue) (tag : Tag) :
    tagWarnings d l (normalForm d tag) = tagWarnings d l tag := by
  rw [tagWarnings, tagWarnings, addressOf_normalForm]
  rfl

theorem entries_sections_ofTags (d : Char) (tags : List Tag) (warnings : List Warning) :
    (sections d (ofTags d tags) warnings).entries = (named d tags).map (normalForm d) := by
  have h_entries := map_tagNodes_sections (d := d) (l := ofTags d tags) warnings
    (fun n => (⟨n.line, n.path⟩ : Tag)) (fun e => ⟨e.line, e.path d⟩) (fun _ _ => rfl)
  rw [Sections.entries, h_entries, tagEntries_ofTags, List.mapIdx_eq_zipIdx_map, List.map_map]
  conv_rhs => rw [← List.zipIdx_map_fst 0 (named d tags), List.map_map]
  rfl

/-! ## Tags without an address -/

theorem named_cons (d : Char) (tag : Tag) (tags : List Tag) :
    named d (tag :: tags) =
      if addressOf d tag = [] then named d tags else tag :: named d tags := by
  rw [named, List.filter_cons]
  by_cases hnil : addressOf d tag = []
  · simp [hnil, named]
  · simp [hnil, named]

theorem foldl_add_named (d : Char) (l : Catalogue) (tags : List Tag) :
    ((named d tags).map (normalForm d)).foldl (add d) l = tags.foldl (add d) l := by
  induction tags generalizing l with
  | nil => rfl
  | cons tag tags ih =>
      rw [named_cons, List.foldl_cons]
      split
      · rename_i hnil
        rw [add_of_address_eq_nil hnil, ih]
      · rw [List.map_cons, List.foldl_cons, add_normalForm, ih]

theorem filter_tagWarnings (d : Char) (l : Catalogue) (tag : Tag) :
    (tagWarnings d l tag).filter (fun w => !w.isEmptyTag) =
      if addressOf d tag = [] then [] else tagWarnings d l tag := by
  unfold tagWarnings
  by_cases hnil : addressOf d tag = []
  · simp [hnil, Warning.isEmptyTag]
  · rw [if_neg hnil, if_neg (mt List.isEmpty_iff.1 hnil), List.filter_eq_self]
    intro w hw
    rw [isEmptyTag_of_mem_repeatWarnings hw]
    rfl

theorem warningsFrom_named (d : Char) (l : Catalogue) (tags : List Tag) :
    warningsFrom d l ((named d tags).map (normalForm d)) =
      (warningsFrom d l tags).filter fun w => !w.isEmptyTag := by
  induction tags generalizing l with
  | nil => rfl
  | cons tag tags ih =>
      rw [named_cons, warningsFrom, List.filter_append, filter_tagWarnings]
      split
      · rename_i hnil
        rw [add_of_address_eq_nil hnil, ih, List.nil_append]
      · rw [List.map_cons, warningsFrom, tagWarnings_normalForm, add_normalForm, ih]

end Catalogue

open Catalogue in
/-- An outline built from the entries of another has its nodes, roots and paths, and orders the
nodes in the same way. Of the warnings, those about tags without a segment are gone. -/
theorem Outline.ofTags_entries (tags : List Tag) (d : Char) :
    Outline.ofTags (Outline.ofTags tags d).entries d =
      { Outline.ofTags tags d with
        warnings := (Outline.ofTags tags d).warnings.filter fun w => !w.isEmptyTag } := by
  have h_again : Sections.ofTags (Outline.ofTags tags d).entries d =
      sections d (Catalogue.ofTags d tags)
        ((warningsFrom d [] tags).filter fun w => !w.isEmptyTag) := by
    rw [Sections.ofTags_eq_sections, Outline.toSections_ofTags, entries_sections_ofTags,
      Catalogue.ofTags, foldl_add_named, warningsFrom_named]
    rfl
  rw [Outline.ofTags, h_again, Outline.ofTags, Sections.ofTags_eq_sections tags d]
  -- the order of the nodes is read off the nodes, and these are the same
  rfl

end Showcase
