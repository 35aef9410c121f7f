import Mathlib.Data.List.Nodup
import Showcase.Proofs.Outline.Growth

/-!
# Nesting and the order of a traversal

`s.Encloses a id` says that `a` lies around `id`, directly or further up. It follows the
parents of `id` and needs no bound on their number. `s.Traversal ids order` says that `order`
lists the trees with the roots `ids` depth first, each node before what lies below it. It is
a relation because the links of an arbitrary array of nodes may go in circles.

In sections whose links agree, `Linked`, they do not: a parent comes before its children.
There a traversal of the whole outline exists and meets every node once, and a walk that
leaves nodes out meets, in the same order, those with a way down from the top level.
-/

namespace Showcase

namespace Sections

/-- `s.Encloses a id` says that the node `a` lies around the node `id`. -/
inductive Encloses (s : Sections) : NodeId → NodeId → Prop
  | parent {p id : NodeId} (h : s.parent? id = some p) : Encloses s p id
  | up {a p id : NodeId} (h : s.parent? id = some p) (ha : Encloses s a p) : Encloses s a id

/-- `s.Traversal ids order` says that `order` lists the trees with the roots `ids` in order,
each node before what lies below it. -/
inductive Traversal (s : Sections) : List NodeId → List NodeId → Prop
  | nil : Traversal s [] []
  | cons {id : NodeId} {ids below rest : List NodeId} (hbelow : Traversal s (s.childrenOf id) below)
      (hrest : Traversal s ids rest) : Traversal s (id :: ids) (id :: (below ++ rest))

/-- What agreement of the links means: children and parents are the same relation, every
child is listed once, and parents come first. -/
structure Linked (s : Sections) : Prop where
  mem_children : ∀ parent id, id ∈ s.children parent ↔ id.index < s.size ∧ s.parent? id = parent
  nodup_children : ∀ parent, (s.children parent).Nodup
  parent_lt : ∀ id p, s.parent? id = some p → p.index < id.index

variable {s : Sections}

/-! ## Enclosing nodes -/

theorem encloses_iff {a id : NodeId} :
    s.Encloses a id ↔ ∃ p, s.parent? id = some p ∧ (a = p ∨ s.Encloses a p) := by
  constructor
  · intro h
    cases h with
    | parent hp => exact ⟨a, hp, Or.inl rfl⟩
    | up hp ha => exact ⟨_, hp, Or.inr ha⟩
  · rintro ⟨p, hp, rfl | ha⟩
    · exact .parent hp
    · exact .up hp ha

theorem Encloses.trans {a b id : NodeId} (hab : s.Encloses a b) (hb : s.Encloses b id) :
    s.Encloses a id := by
  induction hb with
  | parent hp => exact .up hp hab
  | up hp _ ih => exact .up hp ih

/-- What a node encloses are its children and what these enclose. -/
theorem encloses_iff_child {a id : NodeId} :
    s.Encloses a id ↔ ∃ child, s.parent? child = some a ∧ (child = id ∨ s.Encloses child id) := by
  constructor
  · intro h
    induction h with
    | @parent id hp => exact ⟨id, hp, Or.inl rfl⟩
    | @up p id hp _ ih =>
        obtain ⟨child, hchild, rfl | hbelow⟩ := ih
        · exact ⟨child, hchild, Or.inr (.parent hp)⟩
        · exact ⟨child, hchild, Or.inr (.up hp hbelow)⟩
  · rintro ⟨child, hchild, rfl | hbelow⟩
    · exact .parent hchild
    · exact (Encloses.parent hchild).trans hbelow

theorem Encloses.total {a b id : NodeId} (ha : s.Encloses a id) (hb : s.Encloses b id) :
    a = b ∨ s.Encloses a b ∨ s.Encloses b a := by
  induction ha with
  | parent hp =>
      obtain ⟨p, hp', rfl | hbp⟩ := encloses_iff.1 hb
      · exact Or.inl (Option.some.inj (hp.symm.trans hp'))
      · obtain rfl := Option.some.inj (hp.symm.trans hp')
        exact Or.inr (Or.inr hbp)
  | up hp hap ih =>
      obtain ⟨p, hp', rfl | hbp⟩ := encloses_iff.1 hb
      · obtain rfl := Option.some.inj (hp.symm.trans hp')
        exact Or.inr (Or.inl hap)
      · obtain rfl := Option.some.inj (hp.symm.trans hp')
        exact ih hbp

theorem index_lt_of_parent? {id p : NodeId} (h : s.parent? id = some p) : id.index < s.size := by
  obtain ⟨node, hnode, -⟩ := Option.bind_eq_some_iff.1 h
  obtain ⟨hlt, -⟩ := Array.getElem?_eq_some_iff.1 hnode
  exact hlt

theorem Encloses.index_lt_size {a id : NodeId} (h : s.Encloses a id) : id.index < s.size := by
  obtain ⟨p, hp, -⟩ := encloses_iff.1 h
  exact index_lt_of_parent? hp

theorem Encloses.index_lt (hs : s.Linked) {a id : NodeId} (h : s.Encloses a id) :
    a.index < id.index := by
  induction h with
  | parent hp => exact hs.parent_lt _ _ hp
  | up hp _ ih => exact Nat.lt_trans ih (hs.parent_lt _ _ hp)

theorem mem_upwards_iff (hs : s.Linked) {fuel : Nat} {start : Option NodeId} {a : NodeId}
    (hfuel : ∀ id ∈ start, id.index < fuel) :
    a ∈ s.upwards fuel start ↔ ∃ id, start = some id ∧ (a = id ∨ s.Encloses a id) := by
  induction fuel generalizing start with
  | zero =>
      cases start with
      | none => simp [upwards]
      | some id => exact absurd (hfuel id rfl) (Nat.not_lt_zero _)
  | succ fuel ih =>
      cases start with
      | none => simp [upwards]
      | some id =>
          have hparent : ∀ p ∈ s.parent? id, p.index < fuel := by
            intro p hp
            have hlt := hs.parent_lt id p hp
            have hid := hfuel id rfl
            omega
          rw [upwards, List.mem_cons, ih hparent, ← encloses_iff]
          simp

theorem mem_ancestors_iff (hs : s.Linked) {a id : NodeId} :
    a ∈ s.ancestors id ↔ s.Encloses a id := by
  have hfuel : ∀ p ∈ s.parent? id, p.index < s.size := by
    intro p hp
    exact Nat.lt_trans (hs.parent_lt id p hp) (index_lt_of_parent? hp)
  rw [ancestors, mem_upwards_iff hs hfuel, ← encloses_iff]

/-! ## Traversals -/

theorem mem_childrenOf (hs : s.Linked) {id p : NodeId} :
    id ∈ s.childrenOf p ↔ s.parent? id = some p := by
  have h := hs.mem_children (some p) id
  rw [children] at h
  rw [h, and_iff_right_of_imp]
  exact index_lt_of_parent?

theorem Encloses.childrenOf_ne_nil (hs : s.Linked) {a id : NodeId} (h : s.Encloses a id) :
    s.childrenOf a ≠ [] := by
  obtain ⟨child, h_child, -⟩ := encloses_iff_child.1 h
  exact List.ne_nil_of_mem ((mem_childrenOf hs).2 h_child)

theorem mem_roots (hs : s.Linked) {id : NodeId} :
    id ∈ s.roots ↔ id.index < s.size ∧ s.parent? id = none :=
  hs.mem_children none id

/-- A node and what lies below it, each node before what lies below it. Children come later
in the array, which has an end. -/
def Linked.preorder (hs : s.Linked) (id : NodeId) : List NodeId :=
  id :: (s.childrenOf id).attach.flatMap fun child => hs.preorder child.1
termination_by s.size - id.index
decreasing_by
  have hp := (mem_childrenOf hs).1 child.2
  have hlt := hs.parent_lt _ _ hp
  have hsize := index_lt_of_parent? hp
  omega

theorem Linked.preorder_eq (hs : s.Linked) (id : NodeId) :
    hs.preorder id = id :: (s.childrenOf id).flatMap hs.preorder := by
  rw [preorder]
  simp

theorem Linked.traversal_flatMap (hs : s.Linked) {ids : List NodeId}
    (h : ∀ id ∈ ids, s.Traversal (s.childrenOf id) ((s.childrenOf id).flatMap hs.preorder)) :
    s.Traversal ids (ids.flatMap hs.preorder) := by
  induction ids with
  | nil => exact .nil
  | cons id ids ih =>
      rw [List.flatMap_cons, hs.preorder_eq]
      exact .cons (h id List.mem_cons_self) (ih fun id' hid' => h id' (List.mem_cons_of_mem _ hid'))

/-- Listing the nodes recursively traverses them. -/
theorem Linked.traversal (hs : s.Linked) (ids : List NodeId) :
    s.Traversal ids (ids.flatMap hs.preorder) := by
  have hbelow : ∀ id, s.Traversal (s.childrenOf id) ((s.childrenOf id).flatMap hs.preorder) := by
    intro id
    generalize hn : s.size - id.index = n
    induction n using Nat.strong_induction_on generalizing id with
    | _ n ih =>
        refine hs.traversal_flatMap fun child hchild => ?_
        have hp := (mem_childrenOf hs).1 hchild
        have hlt := hs.parent_lt child id hp
        have hsize := index_lt_of_parent? hp
        exact ih (s.size - child.index) (by omega) child rfl
  exact hs.traversal_flatMap fun id _ => hbelow id

/-- Every list of nodes can be traversed. -/
theorem exists_traversal (hs : s.Linked) (ids : List NodeId) :
    ∃ order, s.Traversal ids order :=
  ⟨_, hs.traversal ids⟩

/-- A traversal meets its roots, and the children of every node that it meets. -/
theorem Traversal.perm {ids order : List NodeId} (h : s.Traversal ids order) :
    order.Perm (ids ++ order.flatMap s.childrenOf) := by
  induction h with
  | nil => exact .nil
  | @cons id ids below rest _ _ ihbelow ihrest =>
      rw [List.perm_iff_count] at ihbelow ihrest ⊢
      intro a
      have hb := ihbelow a
      have hr := ihrest a
      simp only [List.count_cons, List.count_append, List.flatMap_cons, List.flatMap_append,
        List.cons_append] at hb hr ⊢
      omega

theorem count_children (hs : s.Linked) {id : NodeId} (hid : id.index < s.size)
    (parent : Option NodeId) :
    (s.children parent).count id = if s.parent? id = parent then 1 else 0 := by
  rw [(hs.nodup_children parent).count]
  simp [hs.mem_children parent id, hid]

theorem count_flatMap_childrenOf (hs : s.Linked) {id : NodeId} (hid : id.index < s.size)
    (order : List NodeId) :
    (order.flatMap s.childrenOf).count id =
      match s.parent? id with
      | some p => order.count p
      | none => 0 := by
  induction order with
  | nil => cases s.parent? id <;> rfl
  | cons a order ih =>
      have ha : (s.childrenOf a).count id = if s.parent? id = some a then 1 else 0 :=
        count_children hs hid (some a)
      rw [List.flatMap_cons, List.count_append, ih, ha]
      cases hp : s.parent? id with
      | none => simp
      | some p =>
          show (if some p = some a then 1 else 0) + order.count p = (a :: order).count p
          rw [List.count_cons, Nat.add_comm]
          by_cases hpa : p = a
          · simp [hpa]
          · simp [hpa, Ne.symm hpa]

/-- A traversal of the whole outline meets every node once. The induction follows the
parents, because a node is met once for every time its parent is. -/
theorem Traversal.count_eq_one (hs : s.Linked) {order : List NodeId}
    (h : s.Traversal s.roots order) {id : NodeId} (hid : id.index < s.size) :
    order.count id = 1 := by
  generalize hn : id.index = n
  induction n using Nat.strong_induction_on generalizing id with
  | _ n ih =>
      have hcount := List.perm_iff_count.1 h.perm id
      have hroots : s.roots.count id = if s.parent? id = none then 1 else 0 :=
        count_children hs hid none
      rw [List.count_append, hroots, count_flatMap_childrenOf hs hid] at hcount
      cases hp : s.parent? id with
      | none => simpa [hp] using hcount
      | some p =>
          have hlt := hs.parent_lt id p hp
          have hone := ih p.index (by omega) (by omega) rfl
          simpa [hp, hone] using hcount

theorem mem_ids {id : NodeId} : id ∈ s.ids ↔ id.index < s.size := by
  unfold ids
  rw [List.mem_map]
  constructor
  · rintro ⟨i, hi, rfl⟩
    exact List.mem_range.1 hi
  · intro hi
    exact ⟨id.index, List.mem_range.2 hi, rfl⟩

theorem nodup_ids (s : Sections) : s.ids.Nodup :=
  List.nodup_range.map fun _ _ h => congrArg NodeId.index h

theorem Traversal.index_lt (hs : s.Linked) {order : List NodeId} (h : s.Traversal s.roots order)
    {id : NodeId} (hid : id ∈ order) : id.index < s.size := by
  have hmem := h.perm.mem_iff.1 hid
  rcases List.mem_append.1 hmem with hroot | hchild
  · exact ((mem_roots hs).1 hroot).1
  · obtain ⟨p, -, hp⟩ := List.mem_flatMap.1 hchild
    exact index_lt_of_parent? ((mem_childrenOf hs).1 hp)

theorem Traversal.perm_ids (hs : s.Linked) {order : List NodeId} (h : s.Traversal s.roots order) :
    order.Perm s.ids := by
  rw [List.perm_iff_count]
  intro id
  rw [(nodup_ids s).count]
  by_cases hid : id.index < s.size
  · rw [h.count_eq_one hs hid, if_pos (mem_ids.2 hid)]
  · rw [if_neg fun hmem => hid (mem_ids.1 hmem), List.count_eq_zero]
    exact fun hmem => hid (h.index_lt hs hmem)

/-! ## Walks -/

/-- The nodes with a way down to them from `ids` that leads through shown and opened nodes
only. -/
inductive Reached (s : Sections) (shown opened : NodeId → Bool) (ids : List NodeId) :
    NodeId → Prop
  | start {id : NodeId} (hid : id ∈ ids) (hshown : shown id = true) : Reached s shown opened ids id
  | down {p id : NodeId} (hp : Reached s shown opened ids p) (hopened : opened p = true)
      (hid : id ∈ s.childrenOf p) (hshown : shown id = true) : Reached s shown opened ids id

variable {shown opened : NodeId → Bool}

theorem Reached.mono {ids ids' : List NodeId} (hids : ∀ id ∈ ids, id ∈ ids') {a : NodeId}
    (h : s.Reached shown opened ids a) : s.Reached shown opened ids' a := by
  induction h with
  | start hid hshown => exact .start (hids _ hid) hshown
  | down _ hopened hid hshown ih => exact .down ih hopened hid hshown

theorem not_reached_nil (a : NodeId) : ¬ s.Reached shown opened [] a := by
  intro h
  induction h with
  | start hid _ => simp at hid
  | down _ _ _ _ ih => exact ih

theorem reached_cons_iff {id : NodeId} {ids : List NodeId} {a : NodeId} :
    s.Reached shown opened (id :: ids) a ↔
      (shown id = true ∧
        (a = id ∨ opened id = true ∧ s.Reached shown opened (s.childrenOf id) a)) ∨
      s.Reached shown opened ids a := by
  constructor
  · intro h
    induction h with
    | @start b hid hshown =>
        rcases List.mem_cons.1 hid with rfl | hid
        · exact Or.inl ⟨hshown, Or.inl rfl⟩
        · exact Or.inr (.start hid hshown)
    | @down p b _ hopened hid hshown ih =>
        rcases ih with ⟨hfirst, rfl | ⟨hopen, hp⟩⟩ | hp
        · exact Or.inl ⟨hfirst, Or.inr ⟨hopened, .start hid hshown⟩⟩
        · exact Or.inl ⟨hfirst, Or.inr ⟨hopen, .down hp hopened hid hshown⟩⟩
        · exact Or.inr (.down hp hopened hid hshown)
  · rintro (⟨hfirst, rfl | ⟨hopen, h⟩⟩ | h)
    · exact .start (by simp) hfirst
    · induction h with
      | start hid hshown => exact .down (.start (by simp) hfirst) hopen hid hshown
      | down _ hopened hid hshown ih => exact .down ih hopened hid hshown
    · exact h.mono fun b hb => List.mem_cons_of_mem _ hb

/-- A walk over some trees takes from their traversal the nodes with a way down to them, and
looks at no more nodes than the traversal has before it goes on with those that wait. -/
theorem Traversal.exists_walkFrom (shown opened : NodeId → Bool) {ids order : List NodeId}
    (h : s.Traversal ids order) :
    ∃ kept : List NodeId, kept.Sublist order ∧
      (∀ id, id ∈ kept ↔ s.Reached shown opened ids id) ∧
      ∃ looks ≤ order.length, ∀ fuel waiting,
        s.walkFrom shown opened (looks + fuel) (ids ++ waiting) =
          kept ++ s.walkFrom shown opened fuel waiting := by
  induction h with
  | nil =>
      refine ⟨[], List.Sublist.refl [], ?_, 0, Nat.le_refl 0, ?_⟩
      · intro id
        simp [not_reached_nil]
      · intro fuel waiting
        rw [Nat.zero_add]
        rfl
  | @cons id ids below rest _ _ ihbelow ihrest =>
      obtain ⟨kept, hsub, hmem, looks, hlooks, hwalk⟩ := ihbelow
      obtain ⟨kept', hsub', hmem', looks', hlooks', hwalk'⟩ := ihrest
      cases hshown : shown id with
      | false =>
          refine ⟨kept', ?_, ?_, looks' + 1, ?_, ?_⟩
          · exact (hsub'.trans (List.sublist_append_right below rest)).cons id
          · intro a
            rw [hmem', reached_cons_iff, hshown]
            simp
          · rw [List.length_cons, List.length_append]
            omega
          · intro fuel waiting
            rw [Nat.add_right_comm, List.cons_append, walkFrom, hshown]
            exact hwalk' fuel waiting
      | true =>
          cases hopened : opened id with
          | false =>
              refine ⟨id :: kept', ?_, ?_, looks' + 1, ?_, ?_⟩
              · exact (hsub'.trans (List.sublist_append_right below rest)).cons_cons id
              · intro a
                rw [List.mem_cons, hmem', reached_cons_iff, hshown, hopened]
                simp
              · rw [List.length_cons, List.length_append]
                omega
              · intro fuel waiting
                rw [Nat.add_right_comm, List.cons_append, walkFrom, hshown, hopened]
                simp [hwalk' fuel waiting]
          | true =>
              refine ⟨id :: (kept ++ kept'), ?_, ?_, looks + looks' + 1, ?_, ?_⟩
              · exact (hsub.append hsub').cons_cons id
              · intro a
                rw [List.mem_cons, List.mem_append, hmem, hmem', reached_cons_iff, hshown, hopened]
                simp [or_assoc]
              · rw [List.length_cons, List.length_append]
                omega
              · intro fuel waiting
                rw [Nat.add_right_comm, List.cons_append, walkFrom, hshown, hopened,
                  Nat.add_assoc looks]
                simp [hwalk, hwalk']

theorem walkFrom_nil (fuel : Nat) : s.walkFrom shown opened fuel [] = [] := by
  cases fuel <;> rfl

/-- What has a way down from the top level: a shown node, all nodes around it shown and
opened. -/
theorem reached_roots_iff (hs : s.Linked) {id : NodeId} :
    s.Reached shown opened s.roots id ↔
      id.index < s.size ∧ shown id = true ∧
        ∀ a, s.Encloses a id → shown a = true ∧ opened a = true := by
  constructor
  · intro h
    induction h with
    | @start id hid hshown =>
        obtain ⟨hlt, hparent⟩ := (mem_roots hs).1 hid
        refine ⟨hlt, hshown, ?_⟩
        intro a ha
        obtain ⟨p, hp, -⟩ := encloses_iff.1 ha
        rw [hparent] at hp
        exact absurd hp (by simp)
    | @down p id _ hopened hid hshown ih =>
        have hp := (mem_childrenOf hs).1 hid
        refine ⟨index_lt_of_parent? hp, hshown, ?_⟩
        intro a ha
        obtain ⟨p', hp', hap⟩ := encloses_iff.1 ha
        obtain rfl : p = p' := Option.some.inj (hp.symm.trans hp')
        rcases hap with rfl | hap
        · exact ⟨ih.2.1, hopened⟩
        · exact ih.2.2 a hap
  · generalize hn : id.index = n
    induction n using Nat.strong_induction_on generalizing id with
    | _ n ih =>
        rintro ⟨hlt, hshown, habove⟩
        cases hp : s.parent? id with
        | none => exact .start ((mem_roots hs).2 ⟨by omega, hp⟩) hshown
        | some p =>
            have hpid : p.index < id.index := hs.parent_lt id p hp
            obtain ⟨hpshown, hpopened⟩ := habove p (.parent hp)
            refine .down (ih p.index (by omega) rfl ⟨by omega, hpshown, ?_⟩) hpopened
              ((mem_childrenOf hs).2 hp) hshown
            intro a ha
            exact habove a (.up hp ha)

/-- A walk over the whole outline meets, in the order of its traversal, the nodes with a way
down to them. -/
theorem Traversal.walk (hs : s.Linked) {order : List NodeId} (h : s.Traversal s.roots order) :
    (s.walk shown opened).Sublist order ∧
      ∀ id, id ∈ s.walk shown opened ↔ s.Reached shown opened s.roots id := by
  obtain ⟨kept, hsub, hmem, looks, hlooks, hwalk⟩ := h.exists_walkFrom shown opened
  have hsize : order.length = s.size := by
    rw [(h.perm_ids hs).length_eq, ids, List.length_map, List.length_range]
  have heq : s.walk shown opened = kept := by
    have hfuel : s.size = looks + (s.size - looks) := by omega
    have hall := hwalk (s.size - looks) []
    rwa [← hfuel, List.append_nil, walkFrom_nil, List.append_nil] at hall
  rw [heq]
  exact ⟨hsub, hmem⟩

end Sections

namespace Catalogue

variable {d : Char} {l : Catalogue} {warnings : List Warning}

theorem children_sections (hc : Grown d l) (parent : Option NodeId) :
    (sections d l warnings).children parent = inside l parent := by
  cases parent with
  | none => rfl
  | some id =>
      show (sections d l warnings).childrenOf id = inside l (some id)
      unfold Sections.childrenOf
      rw [get?_sections]
      cases he : l[id.index]? with
      | some e => rfl
      | none =>
          symm
          rw [Option.map_none, List.eq_nil_iff_forall_not_mem]
          intro child hchild
          obtain ⟨hlt, hp⟩ := mem_inside.1 hchild
          have hid := parent?_lt hc hp
          rw [List.getElem?_eq_none_iff] at he
          omega

theorem linked_sections (hc : Grown d l) : (sections d l warnings).Linked where
  mem_children parent id := by
    rw [children_sections hc, mem_inside, size_sections, parent?_sections]
  nodup_children parent := by
    rw [children_sections hc]
    exact (List.nodup_range.map fun _ _ h => congrArg NodeId.index h).filter _
  parent_lt id p hp := by
    rw [parent?_sections] at hp
    exact parent?_lt hc hp

end Catalogue

theorem Sections.linked_ofTags (tags : List Tag) (d : Char) : (Sections.ofTags tags d).Linked := by
  rw [Sections.ofTags_eq_sections]
  exact Catalogue.linked_sections (Catalogue.grown_ofTags d tags)

end Showcase
