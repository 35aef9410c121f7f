import Showcase.Proofs.Outline.Enclosing
import Showcase.Proofs.Outline.TagNodes

/-!
# The section of one tag

What a tag adds to a catalogue is on its own line: synthetic entries on the way down, and
one entry for the tag itself, which is the deepest and the last. A tag that has its line to
itself therefore has the section that encloses this line, whatever stands on other lines.
-/

namespace Showcase

namespace Catalogue

variable {d : Char} {l : Catalogue}

/-- What tags add to a catalogue is on the lines of those that have a segment. -/
theorem exists_foldl_add_eq_append (d : Char) (l : Catalogue) (tags : List Tag) :
    ∃ more : List Entry, tags.foldl (add d) l = l ++ more ∧
      ∀ e ∈ more, ∃ tag ∈ named d tags, e.line = tag.line := by
  induction tags generalizing l with
  | nil => exact ⟨[], (List.append_nil l).symm, fun e he => absurd he List.not_mem_nil⟩
  | cons tag tags ih =>
      have h_named : ∀ other ∈ named d tags, other ∈ named d (tag :: tags) := by
        intro other h
        exact ((List.sublist_cons_self tag tags).filter _).subset h
      obtain ⟨more, h_eq, h_more⟩ := ih (add d l tag)
      rw [List.foldl_cons, h_eq]
      by_cases hnil : addressOf d tag = []
      · rw [add_of_address_eq_nil hnil]
        refine ⟨more, rfl, ?_⟩
        intro e he
        obtain ⟨other, h_other, hline⟩ := h_more e he
        exact ⟨other, h_named other h_other, hline⟩
      · obtain ⟨way, h_add, h_way⟩ := exists_add_eq_append l hnil
        have h_tag : tag ∈ named d (tag :: tags) :=
          List.mem_filter.2 ⟨List.mem_cons_self, decide_eq_true hnil⟩
        refine ⟨way ++ tagEntry d l tag :: more, ?_, ?_⟩
        · rw [h_add]
          simp
        · intro f hf
          rcases List.mem_append.1 hf with hf | hf
          · exact ⟨tag, h_tag, (h_way f hf).1⟩
          · rcases List.mem_cons.1 hf with rfl | hf
            · exact ⟨tag, h_tag, rfl⟩
            · obtain ⟨other, h_other, hf_line⟩ := h_more f hf
              exact ⟨other, h_named other h_other, hf_line⟩

/-- The catalogue of some tags around the entries of one of them. -/
theorem exists_ofTags_eq_append (before after : List Tag) {tag : Tag}
    (h : addressOf d tag ≠ []) :
    ∃ way more : List Entry,
      ofTags d (before ++ tag :: after) =
        ofTags d before ++ way ++ tagEntry d (ofTags d before) tag :: more ∧
      (∀ f ∈ way, f.line = tag.line ∧ f.origin = .synthetic ∧
        f.address.length < (addressOf d tag).length) ∧
      ∀ f ∈ more, ∃ other ∈ named d after, f.line = other.line := by
  obtain ⟨way, h_add, h_way⟩ := exists_add_eq_append (ofTags d before) h
  obtain ⟨more, h_eq, h_more⟩ :=
    exists_foldl_add_eq_append d (add d (ofTags d before) tag) after
  have h_fold : ofTags d (before ++ tag :: after) =
      after.foldl (add d) (add d (ofTags d before) tag) := by
    rw [ofTags, List.foldl_append]
    rfl
  refine ⟨way, more, ?_, h_way, h_more⟩
  rw [h_fold, h_eq, h_add]
  simp

theorem exists_named_of_mem_ofTags {tags : List Tag} {e : Entry} (h : e ∈ ofTags d tags) :
    ∃ tag ∈ named d tags, e.line = tag.line := by
  obtain ⟨more, h_eq, h_more⟩ := exists_foldl_add_eq_append d [] tags
  rw [ofTags, h_eq, List.nil_append] at h
  exact h_more e h

/-- Every node is on the line of a tag. -/
theorem exists_line_eq_of_get?_ofTags {tags : List Tag} {id : NodeId} {n : OutlineNode}
    (h : (Sections.ofTags tags d).get? id = some n) : ∃ tag ∈ tags, n.line = tag.line := by
  rw [Sections.ofTags_eq_sections] at h
  obtain ⟨e, he, rfl⟩ := exists_entry_of_get? h
  obtain ⟨tag, h_tag, h_line⟩ := exists_named_of_mem_ofTags (List.mem_of_getElem? he)
  exact ⟨tag, List.mem_of_mem_filter h_tag, h_line⟩

theorem line_ne_of_exists_named {tags : List Tag} {line n : Nat}
    (h : ∀ tag ∈ tags, tag.line = line → addressOf d tag = [])
    (hn : ∃ tag ∈ named d tags, n = tag.line) : n ≠ line := by
  obtain ⟨tag, hmem, rfl⟩ := hn
  obtain ⟨hmem, hne⟩ := List.mem_filter.1 hmem
  intro h_same
  exact of_decide_eq_true hne (h tag hmem h_same)

/-! ## Its place among the others -/

theorem length_above_le {e f : Entry} (hf : f.origin = .synthetic)
    (h : f.address.length < e.address.length) : f.above.length ≤ e.above.length := by
  have h_not : f.origin ≠ .duplicate := by
    rw [hf]
    exact NodeOrigin.noConfusion
  have h_dropLast : e.address.length - 1 ≤ e.above.length := by
    unfold Entry.above
    split
    · exact Nat.sub_le _ _
    · rw [List.length_dropLast]
  rw [Entry.above_of_ne_duplicate h_not, List.length_dropLast]
  omega

variable {warnings : List Warning}

/-- An entry that is the last and deepest on its line encloses this line. -/
theorem enclosing?_index_sections {front more : List Entry} {e : Entry}
    (h_front : ∀ f ∈ front, f.line = e.line → f.above.length ≤ e.above.length)
    (h_more : ∀ f ∈ more, f.line ≠ e.line) :
    (sections d (front ++ e :: more) warnings).index.enclosing? e.line =
      some ⟨front.length⟩ := by
  have h_e : (sections d (front ++ e :: more) warnings).get? ⟨front.length⟩ =
      some (node d (front ++ e :: more) front.length e) := by
    rw [get?_sections]
    simp
  rw [Sections.enclosing?_eq_some_iff]
  refine ⟨⟨_, h_e, Nat.le_refl e.line⟩, ?_⟩
  rintro ⟨i⟩ ⟨n, hn, hline⟩
  rw [Sections.rank_of_get? hn, Sections.rank_of_get? h_e, Prod.Lex.toLex_le_toLex,
    Prod.Lex.toLex_le_toLex]
  rw [get?_sections, Option.map_eq_some_iff] at hn
  obtain ⟨f, hf, rfl⟩ := hn
  dsimp only at hf hline ⊢
  rcases Nat.lt_or_eq_of_le hline with hlt | h_eq
  · exact .inl hlt
  · refine .inr ⟨h_eq, ?_⟩
    rcases Nat.lt_trichotomy i front.length with hi | rfl | hi
    · rw [List.getElem?_append_left hi] at hf
      have h_depth := h_front f (List.mem_of_getElem? hf) h_eq
      rcases Nat.lt_or_eq_of_le h_depth with hlt | h_same
      · exact .inl hlt
      · exact .inr ⟨h_same, Nat.le_of_lt hi⟩
    · have h_same : e = f := by simpa using hf
      subst h_same
      exact .inr ⟨rfl, Nat.le_refl _⟩
    · obtain ⟨k, rfl⟩ := Nat.exists_eq_add_of_lt hi
      rw [List.getElem?_append_right (by omega)] at hf
      have h_index : front.length + k + 1 - front.length = k + 1 := by omega
      rw [h_index, List.getElem?_cons_succ] at hf
      exact absurd h_eq (h_more f (List.mem_of_getElem? hf))

/-- An entry for a tag has its node behind those of the entries for tags before it. -/
theorem getElem?_tagNodes_sections {front more : List Entry} {e : Entry}
    (he : e.origin ≠ .synthetic) :
    (sections d (front ++ e :: more) warnings).tagNodes[(tagEntries front).length]? =
      some (node d (front ++ e :: more) front.length e) := by
  have h_length : ((front.mapIdx (node d (front ++ e :: more))).filter fun n =>
      n.origin ≠ .synthetic).length = (tagEntries front).length := by
    rw [← List.countP_eq_length_filter, tagEntries, ← List.countP_eq_length_filter,
      List.mapIdx_eq_zipIdx_map, List.countP_map]
    conv_rhs => rw [← List.zipIdx_map_fst 0 front, List.countP_map]
    rfl
  have h_origin : decide ((node d (front ++ e :: more) front.length e).origin ≠
      NodeOrigin.synthetic) = true := decide_eq_true he
  rw [Sections.tagNodes, sections, List.mapIdx_append, List.mapIdx_cons, List.filter_append,
    ← h_length, List.getElem?_append_right (Nat.le_refl _), Nat.sub_self, Nat.zero_add,
    List.filter_cons, if_pos h_origin]
  rfl

end Catalogue

open Catalogue in
/-- A tag that has a segment, and its line to itself, has the section that encloses this
line. It is made for this very tag: the sections made for tags before it are those of the
tags before it that have a segment. -/
theorem Outline.exists_enclosing?_ofTags {d : Char} {before after : List Tag} {tag : Tag}
    (h : addressOf d tag ≠ [])
    (h_only : ∀ other ∈ before ++ after, other.line = tag.line → addressOf d other = []) :
    ∃ id node, (Outline.ofTags (before ++ tag :: after) d).enclosing? tag.line = some id ∧
      (Outline.ofTags (before ++ tag :: after) d).get? id = some node ∧
      (Outline.ofTags (before ++ tag :: after) d).tagNodes[(named d before).length]? =
        some node ∧
      node.origin ≠ .synthetic ∧ node.line = tag.line ∧
      node.path = String.ofList (Text.joinWith d (addressOf d tag)) := by
  obtain ⟨way, more, h_eq, h_way, h_more⟩ := exists_ofTags_eq_append before after h
  obtain ⟨front, h_def⟩ : ∃ front, front = Catalogue.ofTags d before ++ way := ⟨_, rfl⟩
  obtain ⟨e, h_e⟩ : ∃ e, e = tagEntry d (Catalogue.ofTags d before) tag := ⟨_, rfl⟩
  rw [← h_def, ← h_e] at h_eq
  have h_sections : Sections.ofTags (before ++ tag :: after) d = sections d
      (front ++ e :: more) (warningsFrom d [] (before ++ tag :: after)) := by
    rw [Sections.ofTags_eq_sections, h_eq]
  have hline : e.line = tag.line := by rw [h_e, tagEntry]
  have h_address : e.address = addressOf d tag := by rw [h_e, tagEntry]
  have h_origin : e.origin ≠ .synthetic := by
    rw [h_e]
    exact origin_tagEntry_ne d _ tag
  have h_before : ∀ other ∈ before, other.line = e.line → addressOf d other = [] := by
    intro other hmem h_same
    exact h_only other (List.mem_append_left after hmem) (h_same.trans hline)
  have h_after : ∀ other ∈ after, other.line = e.line → addressOf d other = [] := by
    intro other hmem h_same
    exact h_only other (List.mem_append_right before hmem) (h_same.trans hline)
  have h_front : ∀ f ∈ front, f.line = e.line → f.above.length ≤ e.above.length := by
    intro f hf h_same
    rw [h_def] at hf
    rcases List.mem_append.1 hf with hf | hf
    · exact absurd h_same (line_ne_of_exists_named h_before (exists_named_of_mem_ofTags hf))
    · obtain ⟨-, h_synthetic, h_length⟩ := h_way f hf
      rw [← h_address] at h_length
      exact length_above_le h_synthetic h_length
  have h_back : ∀ f ∈ more, f.line ≠ e.line := by
    intro f hf
    exact line_ne_of_exists_named h_after (h_more f hf)
  have h_count : (tagEntries front).length = (named d before).length := by
    rw [h_def, tagEntries_append, tagEntries_eq_nil fun f hf => (h_way f hf).2.1,
      List.append_nil, tagEntries_ofTags, List.length_mapIdx]
  refine ⟨⟨front.length⟩, node d (front ++ e :: more) front.length e, ?_, ?_, ?_, h_origin,
    hline, ?_⟩
  · rw [Outline.ofTags, h_sections, ← hline]
    exact enclosing?_index_sections h_front h_back
  · show (Sections.ofTags (before ++ tag :: after) d).get? _ = _
    rw [h_sections, get?_sections]
    simp
  · show (Sections.ofTags (before ++ tag :: after) d).tagNodes[_]? = _
    rw [h_sections, ← h_count]
    exact getElem?_tagNodes_sections h_origin
  · rw [← h_address]
    rfl

end Showcase
