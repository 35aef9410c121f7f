import Showcase.Proofs.Outline.Way
import Showcase.Proofs.Outline.WellFormed

/-!
# Lines in an outline

The entries of a catalogue come in the order of their tags, each on the line of its tag. So if
no tag comes before an earlier one, neither does an entry, and what is ordered by position is
ordered by line as well: a node and those around it, the children of a node, the top level.
Sections that are reopened later make no difference to that, because they keep their place.

A synthetic section has a child on its own line whatever the order of the tags: the node that
is made right after it, on the way down to the same tag.
-/

namespace Showcase

/-- Whether one node starts no later in the source than another. -/
def Sections.NotLater (s : Sections) (a b : NodeId) : Prop :=
  ∃ m n, s.get? a = some m ∧ s.get? b = some n ∧ m.line ≤ n.line

namespace Catalogue

variable {d : Char} {l : Catalogue} {warnings : List Warning}

/-! ## The order of the entries -/

/-- The entries that a tag adds are on its line, and so behind those there are. -/
theorem pairwise_line_add (h : l.Pairwise fun e f => e.line ≤ f.line) {tag : Tag}
    (h_tag : ∀ e ∈ l, e.line ≤ tag.line) :
    (add d l tag).Pairwise fun e f => e.line ≤ f.line := by
  obtain ⟨more, h_eq, h_more⟩ := exists_foldl_add_eq_append d l [tag]
  have h_line : ∀ e ∈ more, e.line = tag.line := by
    intro e he
    obtain ⟨other, h_other, hline⟩ := h_more e he
    rw [hline, List.mem_singleton.1 (List.mem_filter.1 h_other).1]
  show ([tag].foldl (add d) l).Pairwise _
  rw [h_eq, List.pairwise_append]
  refine ⟨h, List.pairwise_of_forall_mem_list ?_, ?_⟩
  · intro e he f hf
    rw [h_line e he, h_line f hf]
  · intro e he f hf
    rw [h_line f hf]
    exact h_tag e he

theorem pairwise_line_ofTags {tags : List Tag} (h : tags.Pairwise fun a b => a.line ≤ b.line) :
    (ofTags d tags).Pairwise fun e f => e.line ≤ f.line := by
  induction tags using List.reverseRecOn with
  | nil => exact .nil
  | append_singleton tags tag ih =>
      obtain ⟨h_tags, -, h_last⟩ := List.pairwise_append.1 h
      rw [ofTags_concat]
      apply pairwise_line_add (ih h_tags)
      intro e he
      obtain ⟨other, h_other, hline⟩ := exists_named_of_mem_ofTags he
      rw [hline]
      exact h_last other (List.mem_filter.1 h_other).1 tag (List.mem_singleton_self tag)

/-! ## Lines of nodes -/

theorem notLater_of_index_le (h : l.Pairwise fun e f => e.line ≤ f.line) {a b : NodeId}
    (hab : a.index ≤ b.index) (hb : b.index < l.length) :
    (sections d l warnings).NotLater a b := by
  have ha : a.index < l.length := Nat.lt_of_le_of_lt hab hb
  refine ⟨_, _, get?_sections_of_getElem? (List.getElem?_eq_getElem ha),
    get?_sections_of_getElem? (List.getElem?_eq_getElem hb), ?_⟩
  show l[a.index].line ≤ l[b.index].line
  rcases Nat.lt_or_eq_of_le hab with hlt | h_eq
  · exact List.pairwise_iff_getElem.1 h a.index b.index ha hb hlt
  · simp only [h_eq, Nat.le_refl]

/-- Children are listed by position, and so by line. -/
theorem pairwise_notLater_children (hc : Grown d l)
    (h : l.Pairwise fun e f => e.line ≤ f.line) (parent : Option NodeId) :
    ((sections d l warnings).children parent).Pairwise (sections d l warnings).NotLater := by
  rw [children_sections hc]
  apply (pairwise_inside l parent).imp_of_mem
  intro a b _ hb hab
  exact notLater_of_index_le h (Nat.le_of_lt hab) (mem_inside.1 hb).1

/-- The first of the nodes in a section is the node right behind it, if that is one of them. -/
theorem inside_eq_cons (hc : Grown d l) {i : Nat} (hi : i + 1 < l.length)
    (h_parent : parent? l ⟨i + 1⟩ = some ⟨i⟩) :
    ∃ rest, inside l (some ⟨i⟩) = ⟨i + 1⟩ :: rest := by
  have h_mem : ⟨i + 1⟩ ∈ inside l (some ⟨i⟩) := mem_inside.2 ⟨hi, h_parent⟩
  have h_order := pairwise_inside l (some ⟨i⟩)
  cases h_inside : inside l (some ⟨i⟩) with
  | nil =>
      rw [h_inside] at h_mem
      cases h_mem
  | cons first rest =>
      have h_first : parent? l first = some ⟨i⟩ := by
        have h_head : first ∈ inside l (some ⟨i⟩) := by
          rw [h_inside]
          exact List.mem_cons_self
        exact (mem_inside.1 h_head).2
      have h_behind : i < first.index := parent?_lt hc h_first
      rw [h_inside] at h_mem h_order
      rcases List.mem_cons.1 h_mem with h_eq | h_rest
      · exact ⟨rest, by rw [h_eq]⟩
      · have h_before := (List.pairwise_cons.1 h_order).1 _ h_rest
        dsimp only at h_before
        omega

/-- The first child of a synthetic section is the node right behind it. -/
theorem children_of_synthetic {tags : List Tag} {i : Nat} {e : Entry}
    (he : (ofTags d tags)[i]? = some e) (ho : e.origin = .synthetic) :
    ∃ f rest, (ofTags d tags)[i + 1]? = some f ∧ f.line = e.line ∧
      inside (ofTags d tags) (some ⟨i⟩) = ⟨i + 1⟩ :: rest := by
  have hc : Grown d (ofTags d tags) := grown_ofTags d tags
  obtain ⟨f, hf, hline, h_above⟩ := exists_next_of_synthetic he ho
  have h_not : e.origin ≠ .duplicate := by
    rw [ho]
    exact NodeOrigin.noConfusion
  have h_parent : parent? (ofTags d tags) ⟨i + 1⟩ = some ⟨i⟩ := by
    rw [parent?, hf, Option.bind_some, h_above]
    exact hc.position?_address he h_not
  obtain ⟨rest, h_inside⟩ := inside_eq_cons hc (List.getElem?_eq_some_iff.1 hf).1 h_parent
  exact ⟨f, rest, hf, hline, h_inside⟩

end Catalogue

open Catalogue in
/-- If no tag comes before an earlier one, a node starts no later than those inside it, and
children and top-level sections are listed in the order in which they start. In any case there
is something inside a synthetic section, and the first child starts on its line. -/
theorem Outline.lines_ofTags (tags : List Tag) (d : Char) :
    let t := Outline.ofTags tags d
    (tags.Pairwise (fun a b => a.line ≤ b.line) →
        (∀ a id, t.Encloses a id → t.NotLater a id) ∧
          ∀ parent, (t.children parent).Pairwise t.NotLater) ∧
      ∀ id n, t.get? id = some n → n.origin = .synthetic →
        ∃ child m rest, n.children = child :: rest ∧ t.get? child = some m ∧ m.line = n.line := by
  intro t
  have hc : Grown d (Catalogue.ofTags d tags) := grown_ofTags d tags
  have h_eq : t.toSections = sections d (Catalogue.ofTags d tags) (warningsFrom d [] tags) :=
    Sections.ofTags_eq_sections tags d
  rw [h_eq]
  refine ⟨fun h_tags => ⟨?_, ?_⟩, ?_⟩
  · intro a id h_around
    have hlt := h_around.index_lt_size
    rw [size_sections] at hlt
    exact notLater_of_index_le (pairwise_line_ofTags h_tags)
      (Nat.le_of_lt (h_around.index_lt (linked_sections hc))) hlt
  · exact pairwise_notLater_children hc (pairwise_line_ofTags h_tags)
  · intro id n hn ho
    obtain ⟨e, he, rfl⟩ := exists_entry_of_get? hn
    obtain ⟨f, rest, hf, hline, h_inside⟩ := children_of_synthetic he ho
    exact ⟨⟨id.index + 1⟩, _, rest, h_inside, get?_sections_of_getElem? hf, hline⟩

/-- The section `A` is reopened behind `C`. -/
theorem Outline.lines_ofTags_reopened :
    ∃ (tags : List Tag) (n : OutlineNode) (child : NodeId) (m : OutlineNode) (rest : List NodeId),
      tags = [⟨1, "A/B"⟩, ⟨2, "C"⟩, ⟨3, "A/D"⟩] ∧
        tags.Pairwise (fun a b => a.line ≤ b.line) ∧
        (Outline.ofTags tags '/').NotLater ⟨0⟩ ⟨3⟩ ∧
        ((Outline.ofTags tags '/').children (some ⟨0⟩)).Pairwise
          (Outline.ofTags tags '/').NotLater ∧
        (Outline.ofTags tags '/').get? ⟨0⟩ = some n ∧ n.origin = .synthetic ∧
        n.children = child :: rest ∧ (Outline.ofTags tags '/').get? child = some m ∧
        m.line = n.line := by
  obtain ⟨h_order, h_synthetic⟩ :=
    Outline.lines_ofTags [⟨1, "A/B"⟩, ⟨2, "C"⟩, ⟨3, "A/D"⟩] '/'
  have h_tags : ([⟨1, "A/B"⟩, ⟨2, "C"⟩, ⟨3, "A/D"⟩] : List Tag).Pairwise
      fun a b => a.line ≤ b.line := by decide
  obtain ⟨h_around, h_children⟩ := h_order h_tags
  have h_parent : (Outline.ofTags [⟨1, "A/B"⟩, ⟨2, "C"⟩, ⟨3, "A/D"⟩] '/').parent? ⟨3⟩ =
      some ⟨0⟩ := by decide +kernel
  have h_get : (Outline.ofTags [⟨1, "A/B"⟩, ⟨2, "C"⟩, ⟨3, "A/D"⟩] '/').get? ⟨0⟩ =
      some ⟨"A", "A", 1, 0, .synthetic, none, [⟨1⟩, ⟨3⟩]⟩ := by decide +kernel
  obtain ⟨child, m, rest, h_first, hm, hline⟩ := h_synthetic ⟨0⟩ _ h_get rfl
  exact ⟨_, _, child, m, rest, rfl, h_tags, h_around ⟨0⟩ ⟨3⟩ (.parent h_parent),
    h_children (some ⟨0⟩), h_get, rfl, h_first, hm, hline⟩

end Showcase
