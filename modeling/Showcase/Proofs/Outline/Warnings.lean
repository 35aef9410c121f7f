import Mathlib.Data.List.ReduceOption
import Showcase.Proofs.Outline.Prefixes

/-!
# What an outline warns about

A tag leaves at most one warning, and which one depends on the tags before it alone. A tag
without a segment leaves one that says so. Any other tag repeats a section if its address is
a prefix of the address of an earlier tag. The first such tag is the one that the section was
made for, and the repeat is worth a warning only if the section is the own one of that first
tag. A section that was made on the way to a longer tag is synthetic, and it stays so: tags
that name it later leave no warning, however many there are.

A warning is about the line of its tag. So tags that come in order of lines leave their warnings
in order of lines.
-/

namespace Showcase

namespace Catalogue

variable {d : Char}

/-- The warning that a tag leaves behind the tags `earlier`. -/
def warning? (d : Char) (earlier : List Tag) (tag : Tag) : Option Warning :=
  if addressOf d tag = [] then some (.emptyTag tag.line)
  else
    match earlier.find? fun other => addressOf d tag <+: addressOf d other with
    | none => none
    | some first =>
      if addressOf d first = addressOf d tag then
        some (.duplicatePath tag.line (pathOf d (addressOf d tag)))
      else none

theorem tagWarnings_ofTags (d : Char) (earlier : List Tag) (tag : Tag) :
    tagWarnings d (ofTags d earlier) tag = (warning? d earlier tag).toList := by
  unfold tagWarnings warning?
  by_cases hnil : addressOf d tag = []
  · rw [if_pos hnil, if_pos (List.isEmpty_iff.2 hnil)]
    rfl
  · rw [if_neg hnil, if_neg (mt List.isEmpty_iff.1 hnil), repeatWarnings, first?_ofTags d _ hnil]
    cases h_first : earlier.find? fun other => addressOf d tag <+: addressOf d other with
    | none => rfl
    | some first =>
        by_cases h_own : addressOf d first = addressOf d tag
        · simp [h_own]
        · simp [h_own, Ne.symm h_own]

/-- The warnings of tags that are added behind the tags `earlier`. -/
theorem warningsFrom_ofTags (d : Char) (earlier tags : List Tag) :
    warningsFrom d (ofTags d earlier) tags =
      (tags.mapIdx fun i tag => warning? d (earlier ++ tags.take i) tag).reduceOption := by
  induction tags generalizing earlier with
  | nil => rfl
  | cons tag tags ih =>
      have h_later : (tags.mapIdx fun i other =>
            warning? d (earlier ++ (tag :: tags).take (i + 1)) other) =
          tags.mapIdx fun i other => warning? d (earlier ++ [tag] ++ tags.take i) other := by
        simp only [List.take_succ_cons, List.append_assoc, List.singleton_append]
      rw [warningsFrom, tagWarnings_ofTags, ← ofTags_concat, ih, List.mapIdx_cons, h_later,
        List.take_zero, List.append_nil]
      cases warning? d earlier tag with
      | none => rfl
      | some w => rfl

/-! ## Where the warnings stand -/

theorem line_of_mem_tagWarnings {l : Catalogue} {tag : Tag} {w : Warning}
    (h : w ∈ tagWarnings d l tag) : w.line = tag.line := by
  unfold tagWarnings repeatWarnings at h
  split at h
  · rw [List.mem_singleton.1 h]
    rfl
  · split at h
    · rw [List.mem_singleton.1 h]
      rfl
    · cases h

theorem line_of_mem_warningsFrom {l : Catalogue} {tags : List Tag} {w : Warning}
    (h : w ∈ warningsFrom d l tags) : ∃ tag ∈ tags, w.line = tag.line := by
  induction tags generalizing l with
  | nil => cases h
  | cons tag tags ih =>
      rcases List.mem_append.1 h with h | h
      · exact ⟨tag, List.mem_cons_self, line_of_mem_tagWarnings h⟩
      · obtain ⟨other, h_other, h_line⟩ := ih h
        exact ⟨other, List.mem_cons_of_mem tag h_other, h_line⟩

/-- The warnings of tags that are in order are in order. -/
theorem pairwise_line_warningsFrom (d : Char) (l : Catalogue) {tags : List Tag}
    (h : tags.Pairwise fun a b => a.line ≤ b.line) :
    (warningsFrom d l tags).Pairwise fun v w => v.line ≤ w.line := by
  induction tags generalizing l with
  | nil => exact .nil
  | cons tag tags ih =>
      obtain ⟨h_first, h_rest⟩ := List.pairwise_cons.1 h
      refine List.pairwise_append.2 ⟨?_, ih (add d l tag) h_rest, ?_⟩
      · refine List.pairwise_of_forall_mem_list fun v hv w hw => ?_
        rw [line_of_mem_tagWarnings hv, line_of_mem_tagWarnings hw]
      · intro v hv w hw
        obtain ⟨other, h_other, h_line⟩ := line_of_mem_warningsFrom hw
        rw [line_of_mem_tagWarnings hv, h_line]
        exact h_first other h_other

end Catalogue

/-- The warnings of an outline are those of its tags, in the order of the tags, and what a tag
leaves is told by the tags before it. -/
theorem Outline.warnings_ofTags (tags : List Tag) (d : Char) :
    (Outline.ofTags tags d).warnings =
      (tags.mapIdx fun i tag => Catalogue.warning? d (tags.take i) tag).reduceOption := by
  rw [Outline.toSections_ofTags]
  exact Catalogue.warningsFrom_ofTags d [] tags

/-- The section `A` is made for the tag `A/B`, so only that tag is worth a warning when it
comes again. -/
example :
    (Outline.ofTags [⟨1, "A/B"⟩, ⟨2, "A"⟩, ⟨3, "A"⟩, ⟨4, " A / B"⟩, ⟨5, "/ /"⟩] '/').warnings =
      [.duplicatePath 4 "A/B", .emptyTag 5] := by
  decide +kernel

end Showcase
