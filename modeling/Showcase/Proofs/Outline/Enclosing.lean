import Mathlib.Data.Prod.Lex
import Showcase.Proofs.Outline.Nesting
import Showcase.Proofs.Sorting
import Showcase.Proofs.Source.Partition

/-!
# The section that encloses a line

An outline lists its nodes by line, then by depth, then by position. `Sections.rank` is the
key of that order, and among nodes that exist the order is total, so the list is sorted and
the nodes that do not start after a line come first in it. The enclosing section of a line
is the last of them: the one of the highest rank.
-/

namespace Showcase

namespace Sections

/-- What nodes are ordered by. -/
def rank (s : Sections) (id : NodeId) : ℕ ×ₗ ℕ ×ₗ ℕ :=
  match s.get? id with
  | some node => toLex (node.line, toLex (node.depth, id.index))
  | none => toLex (0, toLex (0, id.index))

/-- Whether a node exists and does not start after a line. -/
def StartsBy (s : Sections) (line : Nat) (id : NodeId) : Prop :=
  ∃ node, s.get? id = some node ∧ node.line ≤ line

variable {s : Sections}

theorem rank_of_get? {id : NodeId} {node : OutlineNode} (h : s.get? id = some node) :
    s.rank id = toLex (node.line, toLex (node.depth, id.index)) := by
  rw [rank, h]

theorem rank_inj {a b : NodeId} (h : s.rank a = s.rank b) : a = b := by
  have h_index (id : NodeId) : (ofLex (ofLex (s.rank id)).2).2 = id.index := by
    rw [rank]
    split <;> rfl
  have h_eq : a.index = b.index := by rw [← h_index a, h, h_index b]
  cases a
  cases b
  exact congrArg NodeId.mk h_eq

theorem mem_ids_iff_get? {id : NodeId} : id ∈ s.ids ↔ ∃ node, s.get? id = some node := by
  rw [mem_ids, get?, ← Option.isSome_iff_exists, isSome_getElem?]
  rfl

theorem line_le_of_rank_le {a b : NodeId} {m n : OutlineNode} (ha : s.get? a = some m)
    (hb : s.get? b = some n) (h : s.rank a ≤ s.rank b) : m.line ≤ n.line := by
  rw [rank_of_get? ha, rank_of_get? hb, Prod.Lex.toLex_le_toLex] at h
  rcases h with h | ⟨h, -⟩
  · exact Nat.le_of_lt h
  · exact Nat.le_of_eq h

/-- Among nodes that exist, the order is that of the ranks. -/
theorem notAfter_eq {a b : NodeId} (ha : a ∈ s.ids) (hb : b ∈ s.ids) :
    s.notAfter a b = decide (s.rank a ≤ s.rank b) := by
  obtain ⟨m, hm⟩ := mem_ids_iff_get?.1 ha
  obtain ⟨n, hn⟩ := mem_ids_iff_get?.1 hb
  rw [notAfter, hm, hn, rank_of_get? hm, rank_of_get? hn, Bool.eq_iff_iff, decide_eq_true_eq,
    Prod.Lex.toLex_le_toLex, Prod.Lex.toLex_le_toLex]
  simp

theorem lineIndex_index (s : Sections) :
    s.index.lineIndex.toList = s.ids.mergeSort fun a b => decide (s.rank a ≤ s.rank b) := by
  have h_sort := List.map_mergeSort (f := id) (l := s.ids) (r := s.notAfter)
    (s := fun a b => decide (s.rank a ≤ s.rank b)) fun a ha b hb => notAfter_eq ha hb
  rw [List.map_id, List.map_id] at h_sort
  exact h_sort

theorem pairwise_lineIndex (s : Sections) :
    s.index.lineIndex.toList.Pairwise fun a b => s.rank a ≤ s.rank b := by
  rw [lineIndex_index]
  exact pairwise_mergeSort_le s.rank s.ids

theorem mem_lineIndex {id : NodeId} : id ∈ s.index.lineIndex.toList ↔ id ∈ s.ids := by
  rw [lineIndex_index]
  exact (List.mergeSort_perm s.ids _).mem_iff

/-! ## Looking a line up -/

theorem any_line_le_iff {line : Nat} {id : NodeId} :
    ((s.index.get? id).any fun node => node.line ≤ line) = true ↔ s.StartsBy line id := by
  show ((s.get? id).any fun node => node.line ≤ line) = true ↔ _
  rw [Option.any_eq_true, StartsBy]
  simp

theorem rank_lineIndex_le (s : Sections) {i j : Nat} (hij : i ≤ j)
    (hj : j < s.index.lineIndex.size) :
    s.rank s.index.lineIndex[i] ≤ s.rank s.index.lineIndex[j] := by
  rcases Nat.lt_or_eq_of_le hij with hij | rfl
  · have h_sorted := List.pairwise_iff_getElem.1 s.pairwise_lineIndex
    exact h_sorted i j (Nat.lt_trans hij hj) hj hij
  · exact le_refl _

/-- In line order, the nodes that do not start after a line come first. -/
theorem partitioned_lineIndex (s : Sections) (line : Nat) :
    Partitioned s.index.lineIndex fun id =>
      (s.index.get? id).any fun node => node.line ≤ line := by
  intro i j hij hj h
  have h_rank := s.rank_lineIndex_le (Nat.le_of_lt hij) hj
  have h_mem : s.index.lineIndex[i] ∈ s.ids := mem_lineIndex.1 (Array.getElem_mem_toList _)
  obtain ⟨m, hm⟩ := mem_ids_iff_get?.1 h_mem
  obtain ⟨n, hn, hline⟩ := any_line_le_iff.1 h
  exact any_line_le_iff.2 ⟨m, hm, Nat.le_trans (line_le_of_rank_le hm hn h_rank) hline⟩

/-- The nodes that do not start after a line are those before the point looked up. -/
theorem startsBy_iff_exists_getElem (s : Sections) (line : Nat) (id : NodeId) :
    s.StartsBy line id ↔ ∃ i, ∃ hi : i < s.index.lineIndex.size,
      s.index.lineIndex[i] = id ∧ i < partitionPoint s.index.lineIndex fun id =>
        (s.index.get? id).any fun node => node.line ≤ line := by
  obtain ⟨-, h_test⟩ := partitionPoint_spec (s.partitioned_lineIndex line)
  constructor
  · rintro ⟨node, hnode, hline⟩
    have h_mem := mem_lineIndex.2 (mem_ids_iff_get?.2 ⟨node, hnode⟩)
    obtain ⟨i, hi, rfl⟩ := Array.mem_iff_getElem.1 (Array.mem_toList_iff.1 h_mem)
    exact ⟨i, hi, rfl, (h_test i hi).1 (any_line_le_iff.2 ⟨node, hnode, hline⟩)⟩
  · rintro ⟨i, hi, rfl, hlt⟩
    exact any_line_le_iff.1 ((h_test i hi).2 hlt)

/-- No node may start by a line; otherwise the section that encloses the line is, of the nodes
that do, one of the highest rank. -/
theorem enclosing?_cases (s : Sections) (line : Nat) :
    (s.index.enclosing? line = none ∧ ∀ id, ¬ s.StartsBy line id) ∨
      ∃ id, s.index.enclosing? line = some id ∧ s.StartsBy line id ∧
        ∀ other, s.StartsBy line other → s.rank other ≤ s.rank id := by
  obtain ⟨h_size, -⟩ := partitionPoint_spec (s.partitioned_lineIndex line)
  have h_before := s.startsBy_iff_exists_getElem line
  rw [Outline.enclosing?]
  cases h_point : partitionPoint s.index.lineIndex fun id =>
      (s.index.get? id).any fun node => node.line ≤ line with
  | zero =>
      refine .inl ⟨rfl, ?_⟩
      intro id h_id
      obtain ⟨i, -, -, hlt⟩ := (h_before id).1 h_id
      rw [h_point] at hlt
      exact absurd hlt (Nat.not_lt_zero i)
  | succ count =>
      rw [h_point] at h_size h_before
      refine .inr ⟨s.index.lineIndex[count], Array.getElem?_eq_getElem h_size, ?_, ?_⟩
      · exact (h_before _).2 ⟨count, h_size, rfl, Nat.lt_succ_self count⟩
      · intro other h_other
        obtain ⟨i, hi, rfl, hlt⟩ := (h_before other).1 h_other
        exact s.rank_lineIndex_le (Nat.le_of_lt_succ hlt) h_size

/-- The section that encloses a line is, of the nodes that do not start after it, the one of
the highest rank. -/
theorem enclosing?_eq_some_iff {line : Nat} {id : NodeId} :
    s.index.enclosing? line = some id ↔
      s.StartsBy line id ∧ ∀ other, s.StartsBy line other → s.rank other ≤ s.rank id := by
  rcases s.enclosing?_cases line with ⟨h_none, h_after⟩ | ⟨last, h_some, h_last, h_max⟩
  · rw [h_none]
    constructor
    · intro h
      cases h
    · rintro ⟨h_id, -⟩
      exact absurd h_id (h_after id)
  · rw [h_some, Option.some_inj]
    constructor
    · rintro rfl
      exact ⟨h_last, h_max⟩
    · rintro ⟨h_id, h_id_max⟩
      exact rank_inj (le_antisymm (h_id_max _ h_last) (h_max id h_id))

theorem enclosing?_eq_none_iff {line : Nat} :
    s.index.enclosing? line = none ↔ ∀ id, ¬ s.StartsBy line id := by
  rcases s.enclosing?_cases line with ⟨h_none, h_after⟩ | ⟨last, h_some, h_last, -⟩
  · exact iff_of_true h_none h_after
  · refine iff_of_false ?_ fun h => h last h_last
    rw [h_some]
    exact Option.some_ne_none last

/-- What encloses a line depends on nothing but the nodes that do not start after it, and on
their order. -/
theorem enclosing?_congr {t : Sections} {line line' : Nat}
    (hby : ∀ id, t.StartsBy line' id ↔ s.StartsBy line id)
    (hrank : ∀ id, s.StartsBy line id → t.rank id = s.rank id) :
    t.index.enclosing? line' = s.index.enclosing? line := by
  rcases s.enclosing?_cases line with ⟨h_none, h_after⟩ | ⟨id, h_some, h_id, h_max⟩
  · rw [h_none, enclosing?_eq_none_iff]
    intro id h_id
    exact h_after id ((hby id).1 h_id)
  · rw [h_some, enclosing?_eq_some_iff]
    refine ⟨(hby id).2 h_id, ?_⟩
    intro other h_other
    have h_by := (hby other).1 h_other
    rw [hrank id h_id, hrank other h_by]
    exact h_max other h_by

/-- It makes no difference how far behind the last node a line is. -/
theorem enclosing?_min (line : Nat) {last : Nat} (h : ∀ id n, s.get? id = some n → n.line ≤ last) :
    s.index.enclosing? (min line last) = s.index.enclosing? line := by
  refine enclosing?_congr (fun id => ?_) fun _ _ => rfl
  constructor
  · rintro ⟨n, hn, h_line⟩
    exact ⟨n, hn, Nat.le_trans h_line (Nat.min_le_left line last)⟩
  · rintro ⟨n, hn, h_line⟩
    exact ⟨n, hn, Nat.le_min.2 ⟨h_line, h id n hn⟩⟩

theorem index_lt_of_enclosing? {line : Nat} {id : NodeId}
    (h : s.index.enclosing? line = some id) : id.index < s.size := by
  obtain ⟨⟨node, h_node, -⟩, -⟩ := enclosing?_eq_some_iff.1 h
  exact mem_ids.1 (mem_ids_iff_get?.2 ⟨node, h_node⟩)

end Sections

end Showcase
