import Showcase.Outline.View
import Showcase.Proofs.Outline.Nesting

/-!
# Which rows a view displays

A section matches if the filter is active and its title matches. It is shown if there is no
filter, or if it matches, or if a section around it or inside it does. It is opened if there
is something inside and it is expanded or encloses a match. The rows displayed are those of
the shown sections that have only opened ones around them, in the order of a traversal.

The view finds matches below and above a section by one pass over the nodes each. Each pass
keeps an array of flags whose meaning is fixed for the nodes already passed, because parents
come before their children.
-/

namespace Showcase

namespace OutlineView

/-- Whether the filter is active and matches the title of a section. -/
def Matches (v : OutlineView) (s : Sections) (id : NodeId) : Prop :=
  v.isMatch? s id = some true

/-- Whether the filter lets a section be displayed. -/
def Shows (v : OutlineView) (s : Sections) (id : NodeId) : Prop :=
  v.hasFilter = false ∨ v.Matches s id ∨ (∃ below, s.Encloses id below ∧ v.Matches s below) ∨
    ∃ above, s.Encloses above id ∧ v.Matches s above

/-- Whether a section with something inside is displayed with it. -/
def Opens (v : OutlineView) (s : Sections) (id : NodeId) : Prop :=
  id ∈ v.expanded ∨ ∃ below, s.Encloses id below ∧ v.Matches s below

variable {s : Sections} {v : OutlineView}

/-! ## Flags -/

theorem getD_push {flags : Array Bool} {b : Bool} {i : Nat} :
    (flags.push b).getD i false = if i = flags.size then b else flags.getD i false := by
  rw [Array.getD_eq_getD_getElem?, Array.getElem?_push, Array.getD_eq_getD_getElem?]
  split <;> rfl

theorem getD_setIfInBounds {flags : Array Bool} {p i : Nat} (hp : p < flags.size) :
    (flags.setIfInBounds p true).getD i false = true ↔ i = p ∨ flags.getD i false = true := by
  rw [Array.getD_eq_getD_getElem?, Array.getElem?_setIfInBounds, Array.getD_eq_getD_getElem?]
  by_cases hi : p = i
  · subst hi
    simp [hp]
  · simp [hi, Ne.symm hi]

theorem lt_size_of_getD {flags : Array Bool} {i : Nat} (h : flags.getD i false = true) :
    i < flags.size := by
  by_contra hge
  rw [Array.getD_eq_getD_getElem?, Array.getElem?_eq_none (by omega)] at h
  simp at h

/-- Whether a node around is marked. -/
def MarkedAround (s : Sections) (own : Array Bool) (id : NodeId) : Prop :=
  ∃ above, s.Encloses above id ∧ own.getD above.index false = true

theorem markedAround_iff {own : Array Bool} {id : NodeId} :
    MarkedAround s own id ↔
      ∃ p, s.parent? id = some p ∧ (own.getD p.index false = true ∨ MarkedAround s own p) := by
  constructor
  · rintro ⟨above, habove, hown⟩
    obtain ⟨p, hp, rfl | habove⟩ := Sections.encloses_iff.1 habove
    · exact ⟨above, hp, Or.inl hown⟩
    · exact ⟨p, hp, Or.inr ⟨above, habove, hown⟩⟩
  · rintro ⟨p, hp, hown | ⟨above, habove, hown⟩⟩
    · exact ⟨p, .parent hp, hown⟩
    · exact ⟨above, .up hp habove, hown⟩

/-- The pass down: before node `k`, the flags of the nodes passed tell whether a node around
them is marked. -/
theorem carryDown_spec (hs : s.Linked) (own : Array Bool) :
    (carryDown s own).size = s.size ∧ ∀ i < s.size,
      ((carryDown s own).getD i false = true ↔ MarkedAround s own ⟨i⟩) := by
  unfold carryDown
  apply Array.foldl_induction (motive := fun k (flags : Array Bool) => flags.size = k ∧
    ∀ i < k, (flags.getD i false = true ↔ MarkedAround s own ⟨i⟩))
  · exact ⟨rfl, fun i hi => absurd hi (Nat.not_lt_zero i)⟩
  · rintro k flags ⟨hsize, hpassed⟩
    refine ⟨by rw [Array.size_push, hsize], ?_⟩
    intro i hi
    rw [getD_push, hsize]
    split
    · rename_i hik
      subst hik
      have hparent : s.parent? ⟨k⟩ = s.nodes[k].parent := by
        simp [Sections.parent?, Sections.get?]
      rw [markedAround_iff, hparent]
      cases hp : s.nodes[k].parent with
      | none => simp
      | some p =>
          have hlt : p.index < k := hs.parent_lt ⟨k⟩ p (hparent.trans hp)
          simp only [Bool.or_eq_true, hpassed p.index hlt, Option.some_inj, exists_eq_left']
    · exact hpassed i (by omega)

theorem getD_carryDown (hs : s.Linked) (own : Array Bool) (id : NodeId) :
    (carryDown s own).getD id.index false = true ↔ MarkedAround s own id := by
  obtain ⟨hsize, hflags⟩ := carryDown_spec hs own
  constructor
  · intro h
    have hlt := lt_size_of_getD h
    rw [hsize] at hlt
    exact (hflags id.index hlt).1 h
  · rintro ⟨above, habove, hown⟩
    exact (hflags id.index habove.index_lt_size).2 ⟨above, habove, hown⟩

/-- The step of the pass up at a node. -/
def carryUpStep (s : Sections) (own : Array Bool) (id : NodeId) (flags : Array Bool) :
    Array Bool :=
  match s.parent? id with
  | some p =>
    if own.getD id.index false || flags.getD id.index false then flags.setIfInBounds p.index true
    else flags
  | none => flags

/-- Whether a node inside is marked. -/
def MarkedInside (s : Sections) (own : Array Bool) (id : NodeId) : Prop :=
  ∃ below, s.Encloses id below ∧ own.getD below.index false = true

/-- Whether a child from position `k` on is marked or has a marked node inside. -/
def MarkedFrom (s : Sections) (own : Array Bool) (k : Nat) (id : NodeId) : Prop :=
  ∃ child, k ≤ child.index ∧ s.parent? child = some id ∧
    (own.getD child.index false = true ∨ MarkedInside s own child)

/-- All children of a node come behind it. -/
theorem markedFrom_iff (hs : s.Linked) {own : Array Bool} {k : Nat} {id : NodeId}
    (hk : k ≤ id.index + 1) : MarkedFrom s own k id ↔ MarkedInside s own id := by
  constructor
  · rintro ⟨child, -, hp, hown | ⟨below, hbelow, hown⟩⟩
    · exact ⟨child, .parent hp, hown⟩
    · exact ⟨below, (Sections.Encloses.parent hp).trans hbelow, hown⟩
  · rintro ⟨below, hbelow, hown⟩
    obtain ⟨child, hp, hchild⟩ := Sections.encloses_iff_child.1 hbelow
    have hlt : id.index < child.index := hs.parent_lt child id hp
    refine ⟨child, Nat.le_trans hk hlt, hp, ?_⟩
    rcases hchild with rfl | hchild
    · exact Or.inl hown
    · exact Or.inr ⟨below, hchild, hown⟩

theorem markedFrom_iff_succ {own : Array Bool} {k : Nat} {id : NodeId} :
    MarkedFrom s own k id ↔
      (s.parent? ⟨k⟩ = some id ∧ (own.getD k false = true ∨ MarkedInside s own ⟨k⟩)) ∨
        MarkedFrom s own (k + 1) id := by
  constructor
  · rintro ⟨child, hk, hp, hmark⟩
    rcases Nat.eq_or_lt_of_le hk with rfl | hlt
    · exact Or.inl ⟨hp, hmark⟩
    · exact Or.inr ⟨child, hlt, hp, hmark⟩
  · rintro (⟨hp, hmark⟩ | ⟨child, hk, hp, hmark⟩)
    · exact ⟨⟨k⟩, Nat.le_refl k, hp, hmark⟩
    · exact ⟨child, Nat.le_of_succ_le hk, hp, hmark⟩

theorem not_markedFrom_size (s : Sections) (own : Array Bool) (id : NodeId) :
    ¬ MarkedFrom s own s.size id := by
  rintro ⟨child, hk, hp, -⟩
  exact absurd (Sections.index_lt_of_parent? hp) (Nat.not_lt_of_le hk)

/-- The pass up: behind node `k`, the flags tell whether a child passed is marked or has a
marked node inside, so the flag of a node is final when the node is met. -/
theorem getD_carryUpStep (hs : s.Linked) {own flags : Array Bool} {k : Nat}
    (hsize : flags.size = s.size)
    (hpassed : ∀ a : NodeId, flags.getD a.index false = true ↔ MarkedFrom s own (k + 1) a) :
    (carryUpStep s own ⟨k⟩ flags).size = s.size ∧ ∀ a : NodeId,
      (carryUpStep s own ⟨k⟩ flags).getD a.index false = true ↔ MarkedFrom s own k a := by
  have hfinal : flags.getD k false = true ↔ MarkedInside s own ⟨k⟩ := by
    rw [hpassed ⟨k⟩, markedFrom_iff hs (Nat.le_refl _)]
  simp only [markedFrom_iff_succ (k := k), ← hfinal, ← hpassed]
  unfold carryUpStep
  cases hp : s.parent? ⟨k⟩ with
  | none => exact ⟨hsize, fun a => by simp⟩
  | some p =>
      have hlt : p.index < flags.size := by
        rw [hsize]
        exact Nat.lt_trans (hs.parent_lt _ _ hp) (Sections.index_lt_of_parent? hp)
      by_cases hmark : own.getD k false = true ∨ flags.getD k false = true
      · have hcond : (own.getD k false || flags.getD k false) = true := by simpa using hmark
        simp only [hcond, if_true]
        refine ⟨by simpa using hsize, ?_⟩
        intro a
        have heq : a.index = p.index ↔ p = a :=
          ⟨fun h => (congrArg NodeId.mk h).symm, fun h => by rw [h]⟩
        rw [getD_setIfInBounds hlt, Option.some_inj, heq, and_iff_left hmark]
      · have hcond : (own.getD k false || flags.getD k false) = false := by simpa using hmark
        simp only [hcond]
        refine ⟨hsize, ?_⟩
        intro a
        rw [or_iff_right fun h => hmark h.2]
        simp

theorem getD_foldr_carryUpStep (hs : s.Linked) (own : Array Bool) {k m : Nat}
    (hkm : k + m = s.size) :
    let flags := ((List.range' k m).map NodeId.mk).foldr (carryUpStep s own)
      (Array.replicate s.size false)
    flags.size = s.size ∧ ∀ a : NodeId, flags.getD a.index false = true ↔
      MarkedFrom s own k a := by
  induction m generalizing k with
  | zero =>
      obtain rfl : k = s.size := hkm
      refine ⟨by simp, ?_⟩
      intro a
      rw [iff_false_right (not_markedFrom_size s own a), List.range'_zero, List.map_nil,
        List.foldr_nil, Array.getD_eq_getD_getElem?, Array.getElem?_replicate]
      split
      · exact Bool.false_ne_true
      · exact Bool.false_ne_true
  | succ m ih =>
      have hnext : k + 1 + m = s.size := by
        rw [Nat.add_assoc, Nat.add_comm 1]
        exact hkm
      obtain ⟨hsize, hpassed⟩ := ih hnext
      rw [List.range'_succ, List.map_cons, List.foldr_cons]
      exact getD_carryUpStep hs hsize hpassed

theorem getD_carryUp (hs : s.Linked) (own : Array Bool) (id : NodeId) :
    (carryUp s own).getD id.index false = true ↔ MarkedInside s own id := by
  have hfold : carryUp s own =
      ((List.range' 0 s.size).map NodeId.mk).foldr (carryUpStep s own)
        (Array.replicate s.size false) := by
    rw [← List.range_eq_range']
    rfl
  rw [hfold, (getD_foldr_carryUpStep hs own (Nat.zero_add s.size)).2 id,
    markedFrom_iff hs (Nat.zero_le _)]

/-! ## Findings -/

theorem not_matches_of_hasFilter (h : v.hasFilter = false) (s : Sections) (id : NodeId) :
    ¬ v.Matches s id := by
  simp [Matches, isMatch?, h]

theorem getD_own_findings (v : OutlineView) (s : Sections) (id : NodeId) :
    (v.findings s).own.getD id.index false = true ↔ v.Matches s id := by
  unfold findings Matches isMatch? Sections.get?
  cases v.hasFilter with
  | false => simp
  | true =>
      simp only [if_true]
      rw [Array.getD_eq_getD_getElem?, Array.getElem?_map]
      cases s.nodes[id.index]? <;> simp

theorem getD_below_findings (hs : s.Linked) (v : OutlineView) (id : NodeId) :
    (v.findings s).below.getD id.index false = true ↔
      ∃ below, s.Encloses id below ∧ v.Matches s below := by
  simp only [← getD_own_findings]
  cases h : v.hasFilter with
  | false => simp [findings, h]
  | true =>
      simp only [findings, h, if_true]
      exact getD_carryUp hs _ id

theorem getD_above_findings (hs : s.Linked) (v : OutlineView) (id : NodeId) :
    (v.findings s).above.getD id.index false = true ↔
      ∃ above, s.Encloses above id ∧ v.Matches s above := by
  simp only [← getD_own_findings]
  cases h : v.hasFilter with
  | false => simp [findings, h]
  | true =>
      simp only [findings, h, if_true]
      exact getD_carryDown hs _ id

theorem passes_iff (hs : s.Linked) (v : OutlineView) (id : NodeId) :
    v.passes (v.findings s) id = true ↔ v.Shows s id := by
  simp only [passes, Shows, Bool.or_eq_true, Bool.not_eq_true', getD_own_findings,
    getD_below_findings hs, getD_above_findings hs, or_assoc]

theorem isOpen_iff (hs : s.Linked) (v : OutlineView) (id : NodeId) :
    v.isOpen s (v.findings s) id = true ↔ s.childrenOf id ≠ [] ∧ v.Opens s id := by
  simp only [isOpen, Opens, isExpanded, Bool.and_eq_true, Bool.or_eq_true, Bool.not_eq_true',
    getD_below_findings hs, List.isEmpty_eq_false_iff, decide_eq_true_eq, or_comm]

/-! ## Rows -/

theorem Shows.of_encloses {a id : NodeId} (ha : s.Encloses a id) (h : v.Shows s id) :
    v.Shows s a := by
  rcases h with h | h | ⟨below, hbelow, h⟩ | ⟨above, habove, h⟩
  · exact Or.inl h
  · exact Or.inr (Or.inr (Or.inl ⟨id, ha, h⟩))
  · exact Or.inr (Or.inr (Or.inl ⟨below, ha.trans hbelow, h⟩))
  · rcases ha.total habove with rfl | hbelow | habove'
    · exact Or.inr (Or.inl h)
    · exact Or.inr (Or.inr (Or.inl ⟨above, hbelow, h⟩))
    · exact Or.inr (Or.inr (Or.inr ⟨above, habove', h⟩))

theorem map_id_rows (v : OutlineView) (s : Sections) :
    (v.rows s).map (·.id) = s.walk (v.passes (v.findings s)) (v.isOpen s (v.findings s)) := by
  rw [rows, List.map_map]
  exact List.map_id _

/-- A section is listed if it is shown and every section around it is opened. -/
theorem mem_map_id_rows (hs : s.Linked) {id : NodeId} :
    id ∈ (v.rows s).map (·.id) ↔
      id.index < s.size ∧ v.Shows s id ∧ ∀ a, s.Encloses a id → v.Opens s a := by
  obtain ⟨order, horder⟩ := Sections.exists_traversal hs s.roots
  rw [map_id_rows, (horder.walk hs).2 id, Sections.reached_roots_iff hs]
  simp only [passes_iff hs, isOpen_iff hs]
  refine and_congr_right fun _ => and_congr_right fun hshows => forall₂_congr fun a ha => ?_
  constructor
  · rintro ⟨-, -, hopens⟩
    exact hopens
  · intro hopens
    exact ⟨hshows.of_encloses ha, ha.childrenOf_ne_nil hs, hopens⟩

theorem exists_get?_of_mem_rows (hs : s.Linked) {row : OutlineRow} (h : row ∈ v.rows s) :
    ∃ node, s.get? row.id = some node ∧ row.depth = node.depth ∧
      (row.hasChildren = true ↔ node.children ≠ []) ∧
      (row.isOpen = true ↔ node.children ≠ [] ∧ v.Opens s row.id) ∧
      (row.matched = true ↔ v.Matches s row.id) := by
  have hid : row.id.index < s.size :=
    ((mem_map_id_rows hs).1 (List.mem_map_of_mem h)).1
  obtain ⟨id, -, rfl⟩ := List.mem_map.1 h
  have hnode : s.get? id = some s.nodes[id.index] := Array.getElem?_eq_getElem hid
  have hchildren : s.childrenOf id = s.nodes[id.index].children := by
    rw [Sections.childrenOf, hnode]
  refine ⟨s.nodes[id.index], hnode, ?_, ?_, ?_, getD_own_findings v s id⟩
  · simp [row, hnode]
  · simp [row, hchildren]
  · rw [← hchildren]
    exact isOpen_iff hs v id

/-- A match is listed, because everything around it is opened for it. -/
theorem Matches.mem_map_id_rows (hs : s.Linked) {id : NodeId} (h : v.Matches s id) :
    id ∈ (v.rows s).map (·.id) := by
  refine (OutlineView.mem_map_id_rows hs).2 ⟨?_, Or.inr (Or.inl h), ?_⟩
  · have hown := lt_size_of_getD ((getD_own_findings v s id).2 h)
    cases hfilter : v.hasFilter with
    | false => exact absurd h (not_matches_of_hasFilter hfilter s id)
    | true => simpa [findings, hfilter, Sections.size] using hown
  · intro a ha
    exact Or.inr ⟨id, ha, h⟩

end OutlineView

/-- The rows displayed are, in the order of a traversal of the whole outline and without
repetition, those of the sections that are shown and have only opened ones around them. Each
tells the depth of its section, whether there is something inside, whether that is displayed,
and whether the section matches. So every match is displayed, whatever is expanded. -/
theorem OutlineView.rows_ofTags (v : OutlineView) (tags : List Tag) (d : Char) :
    let s := (Outline.ofTags tags d).toSections
    (∃ order, s.Traversal s.roots order ∧ order.Nodup ∧ ((v.rows s).map (·.id)).Sublist order) ∧
      (∀ id, id ∈ (v.rows s).map (·.id) ↔
        id.index < s.size ∧ v.Shows s id ∧ ∀ a, s.Encloses a id → v.Opens s a) ∧
      (∀ row ∈ v.rows s, ∃ node, s.get? row.id = some node ∧ row.depth = node.depth ∧
        (row.hasChildren = true ↔ node.children ≠ []) ∧
        (row.isOpen = true ↔ node.children ≠ [] ∧ v.Opens s row.id) ∧
        (row.matched = true ↔ v.Matches s row.id)) ∧
      ∀ id, v.Matches s id → id ∈ (v.rows s).map (·.id) := by
  intro s
  have hs : s.Linked := Sections.linked_ofTags tags d
  obtain ⟨order, horder⟩ := Sections.exists_traversal hs s.roots
  refine ⟨⟨order, horder, ?_, ?_⟩, fun id => mem_map_id_rows hs,
    fun row hrow => exists_get?_of_mem_rows hs hrow, fun id hid => hid.mem_map_id_rows hs⟩
  · exact (horder.perm_ids hs).nodup_iff.2 (Sections.nodup_ids s)
  · rw [map_id_rows]
    exact (horder.walk hs).1

end Showcase
