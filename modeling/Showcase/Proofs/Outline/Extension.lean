import Showcase.Proofs.Outline.Enclosing

/-!
# Adding tags at the end

Tags that are added to an outline only extend it. `s.Extends fresh t` says all that adding to
`s` on lines with the property `fresh` may make of it: a node that was there may get children
behind those it has and is otherwise as it was, new nodes stand on fresh lines, roots and
warnings are only added at the end, and a path leads where it led. Making a section does no
more than that because it is only done for a path that leads nowhere yet; nothing else about
the sections that are open matters.

The section that encloses a line is the last of those that do not start after it. So nodes on
later lines make no difference to it.
-/

namespace Showcase

/-- A node with one child more. -/
def OutlineNode.adopt (id : NodeId) (n : OutlineNode) : OutlineNode :=
  { n with children := n.children ++ [id] }

/-- Whether a node is another one with children put behind those it has. -/
def OutlineNode.Adopts (n m : OutlineNode) : Prop :=
  ∃ more, m = { n with children := n.children ++ more }

theorem OutlineNode.Adopts.refl (n : OutlineNode) : n.Adopts n :=
  ⟨[], by rw [List.append_nil]⟩

theorem OutlineNode.Adopts.trans {k n m : OutlineNode} (hn : k.Adopts n) (hm : n.Adopts m) :
    k.Adopts m := by
  obtain ⟨more, rfl⟩ := hn
  obtain ⟨further, rfl⟩ := hm
  exact ⟨more ++ further, by rw [List.append_assoc]⟩

namespace Sections

/-- What adding to the sections `s` on `fresh` lines may make of them. -/
structure Extends (fresh : Nat → Prop) (s t : Sections) : Prop where
  kept : ∀ id n, s.get? id = some n → ∃ m, t.get? id = some m ∧ n.Adopts m
  added : ∀ id m, t.get? id = some m → s.get? id = none → fresh m.line
  roots : s.roots <+: t.roots
  warnings : s.warnings <+: t.warnings
  found : ∀ path id, s.find? path = some id → t.find? path = some id

variable {fresh : Nat → Prop} {s t u : Sections}

theorem Extends.refl (fresh : Nat → Prop) (s : Sections) : s.Extends fresh s where
  kept _ n hn := ⟨n, hn, .refl n⟩
  added _ _ hm h_none := by
    rw [h_none] at hm
    cases hm
  roots := List.prefix_rfl
  warnings := List.prefix_rfl
  found _ _ h := h

theorem Extends.trans (hst : s.Extends fresh t) (htu : t.Extends fresh u) :
    s.Extends fresh u where
  kept id n hn := by
    obtain ⟨m, hm, hnm⟩ := hst.kept id n hn
    obtain ⟨k, hk, hmk⟩ := htu.kept id m hm
    exact ⟨k, hk, hnm.trans hmk⟩
  added id k hk h_none := by
    cases hm : t.get? id with
    | none => exact htu.added id k hk hm
    | some m =>
        -- the node was new before, and its line has not changed since
        obtain ⟨k', hk', more, rfl⟩ := htu.kept id m hm
        obtain rfl := Option.some.inj (hk.symm.trans hk')
        exact hst.added id m hm h_none
  roots := hst.roots.trans htu.roots
  warnings := hst.warnings.trans htu.warnings
  found path id h := htu.found path id (hst.found path id h)

/-! ## One addition -/

/-- A node on a fresh line is put behind nodes that have at most got children. -/
theorem Extends.of_push (nodes : Array OutlineNode) (new : OutlineNode)
    (h_size : nodes.size = s.nodes.size)
    (h_kept : ∀ (i : Nat) (n : OutlineNode), s.nodes[i]? = some n →
      ∃ m, nodes[i]? = some m ∧ n.Adopts m)
    (ht : t.nodes = nodes.push new) (h_line : fresh new.line) (h_roots : s.roots <+: t.roots)
    (h_warnings : s.warnings <+: t.warnings)
    (h_found : ∀ path id, s.find? path = some id → t.find? path = some id) :
    s.Extends fresh t where
  kept id n hn := by
    obtain ⟨m, hm, hnm⟩ := h_kept id.index n hn
    have hlt : id.index < nodes.size := (Array.getElem?_eq_some_iff.1 hm).1
    refine ⟨m, ?_, hnm⟩
    rw [get?, ht, Array.getElem?_push, if_neg (Nat.ne_of_lt hlt)]
    exact hm
  added id m hm h_none := by
    have hge : nodes.size ≤ id.index := by
      rw [h_size]
      exact Array.getElem?_eq_none_iff.1 h_none
    rw [get?, ht, Array.getElem?_push] at hm
    split at hm
    · obtain rfl := Option.some.inj hm
      exact h_line
    · rw [Array.getElem?_eq_none hge] at hm
      cases hm
  roots := h_roots
  warnings := h_warnings
  found := h_found

theorem adopts_modify (nodes : Array OutlineNode) (p : Nat) (id : NodeId) (i : Nat)
    (n : OutlineNode) (hn : nodes[i]? = some n) :
    ∃ m, (nodes.modify p (OutlineNode.adopt id))[i]? = some m ∧ n.Adopts m := by
  rw [Array.getElem?_modify, hn]
  split
  · exact ⟨_, rfl, [id], rfl⟩
  · exact ⟨n, rfl, .refl n⟩

theorem lookup_cons_of_unknown {path other : String} {id : NodeId} (new : NodeId)
    (h_path : s.find? path = none) (h : s.find? other = some id) :
    ((path, new) :: s.paths).lookup other = some id := by
  have hne : (other == path) = false := by
    rw [beq_eq_false_iff_ne]
    intro h_eq
    rw [h_eq, h_path] at h
    cases h
  rw [List.lookup_cons, hne]
  exact h

/-- A section for a path that leads nowhere yet. -/
theorem extends_addSection (s : Sections) (parent : Option NodeId) (title : String)
    {path : String} {line : Nat} (origin : NodeOrigin) (h_line : fresh line)
    (h_path : s.find? path = none) :
    s.Extends fresh (s.addSection parent title path line origin).1 := by
  cases parent with
  | none =>
      apply Extends.of_push s.nodes
      · rfl
      · exact fun _ n hn => ⟨n, hn, .refl n⟩
      · rfl
      · exact h_line
      · exact List.prefix_append s.roots _
      · exact List.prefix_rfl
      · exact fun other id => lookup_cons_of_unknown _ h_path
  | some p =>
      apply Extends.of_push (s.nodes.modify p.index (OutlineNode.adopt ⟨s.size⟩))
      · exact Array.size_modify
      · exact adopts_modify s.nodes p.index ⟨s.size⟩
      · rfl
      · exact h_line
      · exact List.prefix_rfl
      · exact List.prefix_rfl
      · exact fun other id => lookup_cons_of_unknown _ h_path

theorem extends_addRepeat (s : Sections) (existing : NodeId) {line : Nat} (h_line : fresh line) :
    s.Extends fresh (s.addRepeat existing line) := by
  unfold addRepeat
  split
  · exact .refl fresh s
  · apply Extends.of_push (s.nodes.modify existing.index (OutlineNode.adopt ⟨s.size⟩))
    · exact Array.size_modify
    · exact adopts_modify s.nodes existing.index ⟨s.size⟩
    · rfl
    · exact h_line
    · exact List.prefix_rfl
    · dsimp only
      split
      · exact List.prefix_append s.warnings _
      · exact List.prefix_rfl
    · exact fun _ _ h => h

theorem extends_warn (s : Sections) (w : Warning) :
    s.Extends fresh { s with warnings := s.warnings ++ [w] } :=
  { Extends.refl fresh s with warnings := List.prefix_append s.warnings _ }

/-! ## One tag, and all of them -/

theorem extends_descend (d : Char) {line : Nat} (h_line : fresh line) (s : Sections)
    (opened : List NodeId) (above : List (List Char)) (rest : List (List Char)) :
    s.Extends fresh (descend d line s opened above rest).1 := by
  induction rest generalizing s opened above with
  | nil => exact .refl fresh s
  | cons segment rest ih =>
      unfold descend
      dsimp only
      split
      · refine Extends.trans ?_ (ih _ _ _)
        split
        · exact s.extends_addRepeat _ h_line
        · exact .refl fresh s
      · rename_i h_path
        exact (s.extends_addSection _ _ _ h_line h_path).trans (ih _ _ _)

theorem extends_addTag (d : Char) {tag : Tag} (h_line : fresh tag.line)
    (state : Sections × List NodeId) : state.1.Extends fresh (addTag d state tag).1 := by
  obtain ⟨s, opened⟩ := state
  unfold addTag
  dsimp only
  split
  · exact s.extends_warn _
  · split
    · split
      · exact s.extends_addRepeat _ h_line
      · exact .refl fresh s
    · exact extends_descend d h_line s _ _ _

theorem extends_foldl_addTag (d : Char) {tags : List Tag} (h : ∀ tag ∈ tags, fresh tag.line)
    (state : Sections × List NodeId) :
    state.1.Extends fresh (tags.foldl (addTag d) state).1 := by
  induction tags generalizing state with
  | nil => exact .refl fresh state.1
  | cons tag tags ih =>
      have h_first : fresh tag.line := h tag List.mem_cons_self
      have h_rest : ∀ other ∈ tags, fresh other.line :=
        fun other h_other => h other (List.mem_cons_of_mem tag h_other)
      exact (extends_addTag d h_first state).trans (ih h_rest _)

theorem extends_ofTags_append (d : Char) (xs : List Tag) {ys : List Tag}
    (h : ∀ tag ∈ ys, fresh tag.line) : (ofTags xs d).Extends fresh (ofTags (xs ++ ys) d) := by
  unfold ofTags
  rw [List.foldl_append]
  exact extends_foldl_addTag d h _

/-! ## What was there -/

namespace Extends

theorem ids (h : s.Extends fresh t) : s.ids <+: t.ids := by
  have h_size : s.size ≤ t.size := by
    by_contra hlt
    have h_mem : ⟨t.size⟩ ∈ s.ids := mem_ids.2 (Nat.lt_of_not_le hlt)
    obtain ⟨n, hn⟩ := mem_ids_iff_get?.1 h_mem
    obtain ⟨m, hm, -⟩ := h.kept _ n hn
    exact absurd (mem_ids.1 (mem_ids_iff_get?.2 ⟨m, hm⟩)) (Nat.lt_irrefl t.size)
  unfold Sections.ids
  apply List.IsPrefix.map
  rw [List.prefix_iff_eq_take, List.take_range, List.length_range, Nat.min_eq_left h_size]

theorem children (h : s.Extends fresh t) (parent : Option NodeId) :
    s.children parent <+: t.children parent := by
  cases parent with
  | none => exact h.roots
  | some id =>
      show s.childrenOf id <+: t.childrenOf id
      unfold childrenOf
      cases hn : s.get? id with
      | none => exact List.nil_prefix
      | some n =>
          obtain ⟨m, hm, more, rfl⟩ := h.kept id n hn
          rw [hm]
          exact List.prefix_append n.children more

theorem rank_eq (h : s.Extends fresh t) {id : NodeId} {n : OutlineNode}
    (hn : s.get? id = some n) : t.rank id = s.rank id := by
  obtain ⟨m, hm, more, rfl⟩ := h.kept id n hn
  rw [rank_of_get? hn, rank_of_get? hm]

theorem startsBy_iff {line : Nat} (h : s.Extends (line < ·) t) {id : NodeId} :
    t.StartsBy line id ↔ s.StartsBy line id := by
  constructor
  · intro h_by
    obtain ⟨m, hm, h_le⟩ := h_by
    cases hn : s.get? id with
    | none => exact absurd h_le (Nat.not_le.2 (h.added id m hm hn))
    | some n =>
        obtain ⟨m', hm', more, rfl⟩ := h.kept id n hn
        obtain rfl := Option.some.inj (hm.symm.trans hm')
        exact ⟨n, hn, h_le⟩
  · intro h_by
    obtain ⟨n, hn, h_le⟩ := h_by
    obtain ⟨m, hm, more, rfl⟩ := h.kept id n hn
    exact ⟨_, hm, h_le⟩

/-- Nodes on later lines make no difference to what encloses a line. -/
theorem enclosing?_eq {line : Nat} (h : s.Extends (line < ·) t) :
    t.index.enclosing? line = s.index.enclosing? line := by
  apply enclosing?_congr fun id => h.startsBy_iff
  rintro id ⟨n, hn, -⟩
  exact h.rank_eq hn

end Extends

end Sections

/-- Adding tags at the end only extends an outline. Every node keeps its position and all that
it is but for children put behind those it has; roots and warnings too are only added behind
those there are; a path that leads to a node still leads to it; and what encloses a line stays
the same as long as the tags added stand on later ones. -/
theorem Outline.ofTags_append (xs ys : List Tag) (d : Char) :
    let t := Outline.ofTags xs d
    let u := Outline.ofTags (xs ++ ys) d
    t.ids <+: u.ids ∧
      (∀ id n, t.get? id = some n →
        ∃ more, u.get? id = some { n with children := n.children ++ more }) ∧
      (∀ parent, t.children parent <+: u.children parent) ∧
      t.warnings <+: u.warnings ∧
      (∀ path id, t.find? path = some id → u.find? path = some id) ∧
      ∀ line, (∀ tag ∈ ys, line < tag.line) → u.enclosing? line = t.enclosing? line := by
  intro t u
  have h : t.Extends (fun _ => True) u.toSections :=
    Sections.extends_ofTags_append d xs fun _ _ => trivial
  refine ⟨h.ids, ?_, h.children, h.warnings, h.found, ?_⟩
  · intro id n hn
    obtain ⟨m, hm, more, rfl⟩ := h.kept id n hn
    exact ⟨more, hm⟩
  · intro line h_later
    exact (Sections.extends_ofTags_append d xs h_later).enclosing?_eq

/-- The section `A` is reopened and repeated behind line 4. -/
theorem Outline.ofTags_append_reopened :
    ∃ (xs ys : List Tag) (n : OutlineNode) (more : List NodeId),
      xs = [⟨1, "A/B"⟩, ⟨4, "C"⟩] ∧ ys = [⟨6, "A/D"⟩, ⟨5, "A"⟩] ∧ (∀ tag ∈ ys, 4 < tag.line) ∧
        (Outline.ofTags xs '/').get? ⟨0⟩ = some n ∧
        (Outline.ofTags (xs ++ ys) '/').get? ⟨0⟩ =
          some { n with children := n.children ++ more } ∧
        (Outline.ofTags (xs ++ ys) '/').enclosing? 4 = (Outline.ofTags xs '/').enclosing? 4 := by
  obtain ⟨-, h_nodes, -, -, -, h_enclosing⟩ :=
    Outline.ofTags_append [⟨1, "A/B"⟩, ⟨4, "C"⟩] [⟨6, "A/D"⟩, ⟨5, "A"⟩] '/'
  have h_later : ∀ tag ∈ ([⟨6, "A/D"⟩, ⟨5, "A"⟩] : List Tag), 4 < tag.line := by decide
  have h_get : (Outline.ofTags [⟨1, "A/B"⟩, ⟨4, "C"⟩] '/').get? ⟨0⟩ =
      some ⟨"A", "A", 1, 0, .synthetic, none, [⟨1⟩]⟩ := by decide +kernel
  obtain ⟨more, h_kept⟩ := h_nodes ⟨0⟩ _ h_get
  exact ⟨_, _, _, more, rfl, rfl, h_later, h_get, h_kept, h_enclosing 4 h_later⟩

end Showcase
