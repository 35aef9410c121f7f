import Mathlib.Data.List.Perm.Subperm
import Showcase.Proofs.Outline.Enclosing

/-!
# Well-formed outlines

Two functions add nodes to an outline, one for sections and one for repeats, and both keep
its links in order: all positions that it holds are positions of nodes, the parents of nodes
and the children listed agree, and depths count the way up. Everything that goes through an
outline relies on this.

One thing that does is the loop that writes an outline as text. It keeps the nodes that are
still to be written on a stack, and each turn takes the first, writes its row, and puts its
children in front. In a well-formed outline the loop ends after one turn for every node, and
its rows are those of the recursive listing.
-/

namespace Showcase

/-- What makes an outline well formed. -/
structure Outline.WellFormed (t : Outline) : Prop where
  root_lt : ∀ id ∈ t.roots, id.index < t.size
  child_lt : ∀ id, ∀ child ∈ t.childrenOf id, child.index < t.size
  parent_lt_size : ∀ id p, t.parent? id = some p → p.index < t.size
  path_lt : ∀ entry ∈ t.paths, entry.2.index < t.size
  lineIndex_lt : ∀ id ∈ t.lineIndex, id.index < t.size
  /-- Parents come before their children. -/
  parent_lt : ∀ id p, t.parent? id = some p → p.index < id.index
  mem_childrenOf : ∀ child p, child ∈ t.childrenOf p ↔ t.parent? child = some p
  mem_roots : ∀ id, id ∈ t.roots ↔ id.index < t.size ∧ t.parent? id = none
  nodup_children : ∀ parent, (t.children parent).Nodup
  /-- Children, and top-level sections, are listed in the order in which they were made. -/
  pairwise_children : ∀ parent, (t.children parent).Pairwise fun a b => a.index < b.index
  depth_of_root : ∀ id node, t.get? id = some node → node.parent = none → node.depth = 0
  depth_of_child : ∀ id node p, t.get? id = some node → node.parent = some p →
    ∃ above, t.get? p = some above ∧ node.depth = above.depth + 1

namespace Sections

/-- `s.Writes waiting turns text` says that the loop which writes an outline, once the nodes
`waiting` are on its stack, ends after so many turns, having written `text`. -/
inductive Writes (s : Sections) : List NodeId → Nat → String → Prop
  | done : Writes s [] 0 ""
  | turn {id : NodeId} {waiting : List NodeId} {turns : Nat} {text : String}
      (h : Writes s (s.childrenOf id ++ waiting) turns text) :
      Writes s (id :: waiting) (turns + 1) (s.textRow id ++ text)

variable {s : Sections}

/-- The trees to be written first take one turn for each of their nodes. -/
theorem Traversal.writes {ids order : List NodeId} (h : s.Traversal ids order)
    {waiting : List NodeId} {turns : Nat} {text : String} (hw : s.Writes waiting turns text) :
    s.Writes (ids ++ waiting) (order.length + turns)
      (String.join (order.map s.textRow) ++ text) := by
  induction h generalizing waiting turns text with
  | nil => simpa using hw
  | @cons id ids below rest _ _ ihbelow ihrest =>
      have h_rest := ihbelow (ihrest hw)
      have h_turns : (id :: (below ++ rest)).length + turns =
          below.length + (rest.length + turns) + 1 := by
        rw [List.length_cons, List.length_append]
        omega
      have h_text : String.join ((id :: (below ++ rest)).map s.textRow) ++ text =
          s.textRow id ++ (String.join (below.map s.textRow) ++
            (String.join (rest.map s.textRow) ++ text)) := by
        simp [String.append_assoc]
      rw [h_turns, h_text]
      exact .turn h_rest

/-- The text of an outline has the rows of its recursive listing. -/
theorem text_eq (hs : s.Linked) :
    s.text = String.join ((s.roots.flatMap hs.preorder).map s.textRow) := by
  have h_order := hs.traversal s.roots
  have h_nodup : (s.roots.flatMap hs.preorder).Nodup :=
    (h_order.perm_ids hs).nodup_iff.2 (nodup_ids s)
  have h_sub : (s.walk (fun _ => true) fun _ => true).Sublist (s.roots.flatMap hs.preorder) :=
    (h_order.walk hs).1
  have h_subset : s.roots.flatMap hs.preorder ⊆ s.walk (fun _ => true) fun _ => true := by
    intro id hid
    rw [(h_order.walk hs).2, reached_roots_iff hs]
    exact ⟨h_order.index_lt hs hid, rfl, fun _ _ => ⟨rfl, rfl⟩⟩
  rw [text, h_sub.eq_of_length_le (h_nodup.subperm h_subset).length_le]

theorem length_preorder_roots (hs : s.Linked) :
    (s.roots.flatMap hs.preorder).length = s.size := by
  rw [((hs.traversal s.roots).perm_ids hs).length_eq, ids, List.length_map, List.length_range]

/-- The loop that writes an outline ends. -/
theorem writes_text (hs : s.Linked) : s.Writes s.roots s.size s.text := by
  have h_writes := (hs.traversal s.roots).writes .done
  rwa [List.append_nil, String.append_empty, ← text_eq hs, Nat.add_zero,
    length_preorder_roots hs] at h_writes

end Sections

namespace Catalogue

variable {d : Char} {l : Catalogue} {warnings : List Warning}

theorem pairwise_inside (l : Catalogue) (parent : Option NodeId) :
    (inside l parent).Pairwise fun a b => a.index < b.index := by
  have h_ids : ((List.range l.length).map NodeId.mk).Pairwise fun a b => a.index < b.index :=
    List.pairwise_map.2 List.pairwise_lt_range
  exact h_ids.filter _

theorem index_lt_of_mem_paths {entry : String × NodeId} (h : entry ∈ paths d l) :
    entry.2.index < l.length := by
  unfold paths at h
  rw [List.mem_reverse, List.mem_map] at h
  obtain ⟨⟨e, i⟩, h_mem, rfl⟩ := h
  exact (List.mem_zipIdx' (List.mem_filter.1 h_mem).1).1

theorem depth_node_of_none (hc : Grown d l) {i : Nat} {e : Entry} (he : l[i]? = some e)
    (h : (node d l i e).parent = none) : (node d l i e).depth = 0 := by
  have h_none : position? l e.above = none := h
  rcases hc.above_known (List.mem_of_getElem? he) with h_nil | h_some
  · show e.above.length = 0
    rw [h_nil]
    rfl
  · rw [h_none] at h_some
    cases h_some

theorem depth_node_of_some (hc : Grown d l) {i : Nat} {e : Entry} {p : NodeId}
    (h : (node d l i e).parent = some p) :
    ∃ f, l[p.index]? = some f ∧
      (node d l i e).depth = (node d l p.index f).depth + 1 := by
  have h_some : position? l e.above = some p := h
  obtain ⟨f, hf, -⟩ := getElem?_of_position? h_some
  exact ⟨f, hf, length_above_of_parent hc h_some hf⟩

/-- The sections of a catalogue are well formed once they are indexed by line. -/
theorem wellFormed_index (hc : Grown d l) : (sections d l warnings).index.WellFormed := by
  have hs : (sections d l warnings).Linked := linked_sections hc
  exact {
    root_lt := fun id hid => ((Sections.mem_roots hs).1 hid).1
    child_lt := fun id child hchild =>
      Sections.index_lt_of_parent? ((Sections.mem_childrenOf hs).1 hchild)
    parent_lt_size := fun id p hp =>
      Nat.lt_trans (hs.parent_lt id p hp) (Sections.index_lt_of_parent? hp)
    path_lt := by
      intro entry h_entry
      show entry.2.index < (sections d l warnings).size
      rw [size_sections]
      exact index_lt_of_mem_paths h_entry
    lineIndex_lt := fun id hid =>
      Sections.mem_ids.1 (Sections.mem_lineIndex.1 (Array.mem_toList_iff.2 hid))
    parent_lt := hs.parent_lt
    mem_childrenOf := fun child p => Sections.mem_childrenOf hs
    mem_roots := fun id => Sections.mem_roots hs
    nodup_children := hs.nodup_children
    pairwise_children := by
      intro parent
      show ((sections d l warnings).children parent).Pairwise _
      rw [children_sections hc]
      exact pairwise_inside l parent
    depth_of_root := by
      intro id n h_get h_parent
      obtain ⟨e, he, rfl⟩ := exists_entry_of_get? h_get
      exact depth_node_of_none hc he h_parent
    depth_of_child := by
      intro id n p h_get h_parent
      obtain ⟨e, he, rfl⟩ := exists_entry_of_get? h_get
      obtain ⟨f, hf, h_depth⟩ := depth_node_of_some hc h_parent
      exact ⟨node d l p.index f, get?_sections_of_getElem? hf, h_depth⟩ }

end Catalogue

/-- The outline of any tags is well formed. So the loop that writes it ends after one turn
for every node, with the rows of the recursive listing, in which every node comes once. -/
theorem Outline.wellFormed_ofTags (tags : List Tag) (d : Char) :
    let t := Outline.ofTags tags d
    t.WellFormed ∧ t.Writes t.roots t.size t.text ∧
      ∃ hs : t.Linked, t.text = String.join ((t.roots.flatMap hs.preorder).map t.textRow) ∧
        (t.roots.flatMap hs.preorder).Perm t.ids := by
  intro t
  have hs : t.Linked := Sections.linked_ofTags tags d
  have h_wellFormed : t.WellFormed := by
    show (Sections.ofTags tags d).index.WellFormed
    rw [Sections.ofTags_eq_sections]
    exact Catalogue.wellFormed_index (Catalogue.grown_ofTags d tags)
  exact ⟨h_wellFormed, Sections.writes_text hs, hs, Sections.text_eq hs,
    (hs.traversal t.roots).perm_ids hs⟩

end Showcase
