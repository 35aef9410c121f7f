import Showcase.Proofs.Outline.Prefixes
import Showcase.Proofs.Outline.WellFormed

/-!
# The nodes around a node

Walking up from a node follows its links to parents, with nothing to tell whether a node was
met before. `s.Climbs start chain` says that the walk from `start` ends and meets the nodes of
`chain`; it is a relation because in an arbitrary array the walk may go in circles or leave the
array. In an outline it does neither: parents come first, so every turn gets to a smaller
position, and the number of turns is the depth.

What a walk meets is told by addresses. Around a node are the sections whose addresses are
prefixes of the address above it, and a repeat is around nothing because a new node is only
ever put into the first node with an address.
-/

namespace Showcase

namespace Sections

/-- `s.Climbs start chain` says that the walk up from `start` ends at the top level, and that
`chain` lists the nodes it meets. -/
inductive Climbs (s : Sections) : Option NodeId → List NodeId → Prop
  | top : Climbs s none []
  | up {id : NodeId} {n : OutlineNode} {above : List NodeId} (hn : s.get? id = some n)
      (ha : Climbs s n.parent above) : Climbs s (some id) (id :: above)

variable {s : Sections}

theorem parent?_of_get? {id : NodeId} {n : OutlineNode} (hn : s.get? id = some n) :
    s.parent? id = n.parent := by
  rw [parent?, hn, Option.bind_some]

theorem isAncestor_iff (hs : s.Linked) {a id : NodeId} :
    s.isAncestor a id = true ↔ s.Encloses a id := by
  rw [isAncestor, decide_eq_true_eq, mem_ancestors_iff hs]

/-- With more fuel than the position it starts from, the walk is not cut short. -/
theorem climbs_upwards (hs : s.Linked) {fuel : Nat} {start : Option NodeId}
    (h_fuel : ∀ id ∈ start, id.index < fuel) (h_size : ∀ id ∈ start, id.index < s.size) :
    s.Climbs start (s.upwards fuel start) := by
  induction fuel generalizing start with
  | zero =>
      cases start with
      | none => exact .top
      | some id => exact absurd (h_fuel id rfl) (Nat.not_lt_zero _)
  | succ fuel ih =>
      cases start with
      | none => exact .top
      | some id =>
          have h_id : id.index < s.size := h_size id rfl
          have hn : s.get? id = some s.nodes[id.index] := Array.getElem?_eq_getElem h_id
          refine .up hn ?_
          rw [← parent?_of_get? hn]
          apply ih
          · intro p hp
            exact Nat.lt_of_lt_of_le (hs.parent_lt id p hp) (Nat.le_of_lt_succ (h_fuel id rfl))
          · intro p hp
            exact Nat.lt_trans (hs.parent_lt id p hp) h_id

theorem climbs_ancestors (hs : s.Linked) (id : NodeId) :
    s.Climbs (s.parent? id) (s.ancestors id) := by
  have h_size : ∀ p ∈ s.parent? id, p.index < s.size := fun p hp =>
    Nat.lt_trans (hs.parent_lt id p hp) (index_lt_of_parent? hp)
  exact climbs_upwards hs h_size h_size

theorem Climbs.index_lt (hs : s.Linked) {start : Option NodeId} {chain : List NodeId}
    (h : s.Climbs start chain) {bound : Nat} (h_start : ∀ id ∈ start, id.index < bound) :
    ∀ a ∈ chain, a.index < bound := by
  induction h generalizing bound with
  | top => exact fun a ha => absurd ha List.not_mem_nil
  | @up id n above hn _ ih =>
      have h_id : id.index < bound := h_start id rfl
      have h_above : ∀ a ∈ above, a.index < id.index := by
        refine ih fun p hp => ?_
        exact hs.parent_lt id p ((parent?_of_get? hn).trans hp)
      intro a ha
      rcases List.mem_cons.1 ha with rfl | ha
      · exact h_id
      · exact Nat.lt_trans (h_above a ha) h_id

/-- Every turn gets to a smaller position. -/
theorem Climbs.pairwise (hs : s.Linked) {start : Option NodeId} {chain : List NodeId}
    (h : s.Climbs start chain) : chain.Pairwise fun a b => b.index < a.index := by
  induction h with
  | top => exact .nil
  | @up id n above hn ha ih =>
      refine List.pairwise_cons.2 ⟨ha.index_lt hs fun p hp => ?_, ih⟩
      exact hs.parent_lt id p ((parent?_of_get? hn).trans hp)

/-- The walk ends at the top level. -/
theorem Climbs.mem_roots_of_getLast? (hs : s.Linked) {start : Option NodeId}
    {chain : List NodeId} (h : s.Climbs start chain) :
    ∀ last ∈ chain.getLast?, last ∈ s.roots := by
  induction h with
  | top =>
      intro last h_last
      cases h_last
  | @up id n above hn ha ih =>
      intro last h_last
      generalize h_parent : n.parent = parent at ha
      cases ha with
      | top =>
          obtain rfl : id = last := Option.some.inj h_last
          have h_id : id.index < s.size := (Array.getElem?_eq_some_iff.1 hn).1
          exact (mem_roots hs).2 ⟨h_id, (parent?_of_get? hn).trans h_parent⟩
      | up _ _ => exact ih last h_last

end Sections

/-- The walk up from a node takes one turn more than there are sections around it. -/
theorem Outline.WellFormed.length_of_climbs {t : Outline} (ht : t.WellFormed) {id : NodeId}
    {chain : List NodeId} (h : t.Climbs (some id) chain) {n : OutlineNode}
    (hn : t.get? id = some n) : chain.length = n.depth + 1 := by
  generalize h_start : some id = start at h
  induction h generalizing id n with
  | top => cases h_start
  | @up id' n' above hn' ha ih =>
      obtain rfl := Option.some.inj h_start
      obtain rfl : n = n' := Option.some.inj (hn.symm.trans hn')
      rw [List.length_cons, Nat.add_right_cancel_iff]
      cases h_parent : n.parent with
      | none =>
          rw [h_parent] at ha
          cases ha
          exact (ht.depth_of_root id n hn h_parent).symm
      | some p =>
          obtain ⟨m, hm, h_depth⟩ := ht.depth_of_child id n p hn h_parent
          rw [h_depth]
          exact ih hm h_parent.symm

/-! ## Prefixes of an address -/

/-- The proper prefixes of a list are the prefixes of what is before its last entry. -/
theorem prefix_dropLast_iff {α : Type} {as bs : List α} (hbs : bs ≠ []) :
    as <+: bs.dropLast ↔ as <+: bs ∧ as ≠ bs := by
  have h_split : as <+: bs ↔ as = bs ∨ as <+: bs.dropLast := by
    have h_concat : as <+: bs.dropLast ++ [bs.getLast hbs] ↔
        as = bs.dropLast ++ [bs.getLast hbs] ∨ as <+: bs.dropLast := List.prefix_concat_iff
    rwa [List.dropLast_append_getLast hbs] at h_concat
  constructor
  · intro h
    refine ⟨h_split.2 (.inr h), ?_⟩
    rintro rfl
    have h_length := h.length_le
    have h_pos := List.length_pos_iff.2 hbs
    rw [List.length_dropLast] at h_length
    omega
  · rintro ⟨h, h_ne⟩
    exact (h_split.1 h).resolve_left h_ne

/-- The segments that lead to a node, read back from its path. -/
def OutlineNode.address (d : Char) (n : OutlineNode) : Address :=
  Text.segments d n.path.toList

namespace Catalogue

variable {d : Char} {l : Catalogue} {warnings : List Warning} {e f : Entry}

theorem address_node (hc : Grown d l) {i : Nat} (he : l[i]? = some e) :
    (node d l i e).address d = e.address := by
  rw [OutlineNode.address, node, Entry.path, String.toList_ofList,
    Text.segments_joinWith fun segment hs => hc.isSegment (List.mem_of_getElem? he) hs]

/-- The node around another one is the section with the address above it. -/
theorem exists_entry_of_parent? (hc : Grown d l) {id p : NodeId} (hf : l[id.index]? = some f)
    (hp : (sections d l warnings).parent? id = some p) :
    ∃ g, l[p.index]? = some g ∧ g.address = f.above ∧ g.origin ≠ .duplicate := by
  rw [parent?_sections, parent?, hf, Option.bind_some] at hp
  obtain ⟨g, hg, h_address⟩ := getElem?_of_position? hp
  exact ⟨g, hg, h_address, hc.origin_of_position? hp hg⟩

theorem parent?_eq_some_iff (hc : Grown d l) {id p : NodeId} (hf : l[id.index]? = some f)
    {g : Entry} (hg : l[p.index]? = some g) (ho : g.origin ≠ .duplicate) :
    (sections d l warnings).parent? id = some p ↔ g.address = f.above := by
  constructor
  · intro hp
    obtain ⟨g', hg', h_address, -⟩ := exists_entry_of_parent? hc hf hp
    obtain rfl := Option.some.inj (hg.symm.trans hg')
    exact h_address
  · intro h_address
    rw [parent?_sections, parent?, hf, Option.bind_some, ← h_address]
    exact hc.position?_address hg ho

/-- What is around a node has a prefix of the address above the node, and is no repeat. -/
theorem prefix_of_encloses (hc : Grown d l) {a id : NodeId} (he : l[a.index]? = some e)
    (hf : l[id.index]? = some f) (h : (sections d l warnings).Encloses a id) :
    e.origin ≠ .duplicate ∧ e.address <+: f.above := by
  induction h generalizing f with
  | parent hp =>
      obtain ⟨g, hg, h_address, ho⟩ := exists_entry_of_parent? hc hf hp
      obtain rfl := Option.some.inj (he.symm.trans hg)
      exact ⟨ho, h_address ▸ List.prefix_rfl⟩
  | up hp _ ih =>
      obtain ⟨g, hg, h_address, h_not⟩ := exists_entry_of_parent? hc hf hp
      obtain ⟨ho, h_prefix⟩ := ih hg
      rw [Entry.above_of_ne_duplicate h_not, h_address] at h_prefix
      exact ⟨ho, h_prefix.trans (List.dropLast_prefix f.above)⟩

/-- A section is around all nodes that have its address, or a longer one, above them. The
induction goes up from the node, one segment at a time. -/
theorem encloses_of_prefix (hc : Grown d l) {a id : NodeId} (he : l[a.index]? = some e)
    (hf : l[id.index]? = some f) (ho : e.origin ≠ .duplicate) (h : e.address <+: f.above) :
    (sections d l warnings).Encloses a id := by
  generalize h_index : id.index = i at hf
  induction i using Nat.strong_induction_on generalizing id f with
  | _ i ih =>
      subst h_index
      by_cases h_eq : e.address = f.above
      · exact .parent ((parent?_eq_some_iff hc hf he ho).2 h_eq)
      · have h_ne : f.above ≠ [] := by
          intro h_nil
          rw [h_nil, List.prefix_nil] at h
          exact hc.address_ne_nil (List.mem_of_getElem? he) h
        have h_known := (hc.above_known (List.mem_of_getElem? hf)).resolve_left h_ne
        obtain ⟨p, hp⟩ := Option.isSome_iff_exists.1 h_known
        have hp' : (sections d l warnings).parent? id = some p := by
          rw [parent?_sections, parent?, hf, Option.bind_some, hp]
        obtain ⟨g, hg, h_address, h_not⟩ := exists_entry_of_parent? hc hf hp'
        have h_before : p.index < id.index := (linked_sections hc).parent_lt id p hp'
        have h_above : e.address <+: g.above := by
          rw [Entry.above_of_ne_duplicate h_not, h_address]
          exact (prefix_dropLast_iff h_ne).2 ⟨h, h_eq⟩
        exact .up hp' (ih p.index h_before h_above rfl hg)

theorem encloses_iff_prefix_above (hc : Grown d l) {a id : NodeId} (he : l[a.index]? = some e)
    (hf : l[id.index]? = some f) :
    (sections d l warnings).Encloses a id ↔ e.origin ≠ .duplicate ∧ e.address <+: f.above :=
  ⟨prefix_of_encloses hc he hf, fun h => encloses_of_prefix hc he hf h.1 h.2⟩

/-- Around a section are those whose addresses are proper prefixes of its own. -/
theorem encloses_section_iff (hc : Grown d l) {a id : NodeId} (he : l[a.index]? = some e)
    (hf : l[id.index]? = some f) (ho : e.origin ≠ .duplicate) (ho' : f.origin ≠ .duplicate) :
    (sections d l warnings).Encloses a id ↔ e.address <+: f.address ∧ e.address ≠ f.address := by
  rw [encloses_iff_prefix_above hc he hf, and_iff_right ho, Entry.above_of_ne_duplicate ho',
    prefix_dropLast_iff (hc.address_ne_nil (List.mem_of_getElem? hf))]

/-- A repeat lies in a section, and in what is around that. -/
theorem exists_parent_of_duplicate {id : NodeId} (hf : l[id.index]? = some f)
    (ho : f.origin = .duplicate) :
    ∃ p, (node d l id.index f).parent = some p ∧
      ∀ a, (sections d l warnings).Encloses a id ↔
        a = p ∨ (sections d l warnings).Encloses a p := by
  have h_known : (position? l f.address).isSome :=
    isSome_position?_iff.2 ⟨f, List.mem_of_getElem? hf, rfl⟩
  obtain ⟨p, hp⟩ := Option.isSome_iff_exists.1 h_known
  have h_parent : (node d l id.index f).parent = some p := by
    rw [node, Entry.above_of_duplicate ho, hp]
  refine ⟨p, h_parent, fun a => ?_⟩
  rw [Sections.encloses_iff, Sections.parent?_of_get? (get?_sections_of_getElem? hf), h_parent]
  simp

end Catalogue

open Catalogue in
/-- Walking up from any node ends at the top level, after as many turns as the node is deep, each
to a smaller position. Around a section are the sections whose addresses are proper prefixes of
its own; around a repeat are the section it repeats and what is around that; and nothing has a
repeat around it. -/
theorem Outline.ancestors_ofTags (tags : List Tag) (d : Char) :
    let t := Outline.ofTags tags d
    (∀ id, t.Climbs (t.parent? id) (t.ancestors id) ∧
        (id :: t.ancestors id).Pairwise (fun a b => b.index < a.index) ∧
        (∀ last ∈ (t.ancestors id).getLast?, last ∈ t.roots) ∧
        ∀ n, t.get? id = some n → (t.ancestors id).length = n.depth) ∧
      (∀ a b m n, t.get? a = some m → t.get? b = some n →
        m.origin ≠ .duplicate → n.origin ≠ .duplicate →
          (t.isAncestor a b = true ↔ m.address d <+: n.address d ∧ m.address d ≠ n.address d)) ∧
      (∀ id n, t.get? id = some n → n.origin = .duplicate →
        ∃ p, n.parent = some p ∧ ∀ a, t.isAncestor a id = true ↔ a = p ∨ t.isAncestor a p = true) ∧
      ∀ a m, t.get? a = some m → m.origin = .duplicate → ∀ id, t.isAncestor a id = false := by
  intro t
  have hc : Grown d (Catalogue.ofTags d tags) := grown_ofTags d tags
  have hs : t.Linked := Sections.linked_ofTags tags d
  have h_eq : t.toSections = sections d (Catalogue.ofTags d tags) (warningsFrom d [] tags) :=
    Outline.toSections_ofTags tags d
  have ht : t.WellFormed := by
    show t.toSections.index.WellFormed
    rw [h_eq]
    exact wellFormed_index hc
  refine ⟨fun id => ?_, ?_, ?_, ?_⟩
  · have h_climbs := Sections.climbs_ancestors hs id
    have h_before : ∀ p ∈ t.parent? id, p.index < id.index := hs.parent_lt id
    refine ⟨h_climbs, List.pairwise_cons.2 ⟨h_climbs.index_lt hs h_before, h_climbs.pairwise hs⟩,
      h_climbs.mem_roots_of_getLast? hs, fun n hn => ?_⟩
    rw [Sections.parent?_of_get? hn] at h_climbs
    exact Nat.succ.inj (ht.length_of_climbs (.up hn h_climbs) hn)
  · intro a b m n hm hn ho ho'
    rw [Sections.isAncestor_iff hs]
    rw [h_eq] at hm hn ⊢
    obtain ⟨e, he, rfl⟩ := exists_entry_of_get? hm
    obtain ⟨f, hf, rfl⟩ := exists_entry_of_get? hn
    rw [address_node hc he, address_node hc hf]
    exact encloses_section_iff hc he hf ho ho'
  · intro id n hn ho
    simp only [Sections.isAncestor_iff hs]
    rw [h_eq] at hn ⊢
    obtain ⟨f, hf, rfl⟩ := exists_entry_of_get? hn
    exact exists_parent_of_duplicate hf ho
  · intro a m hm ho id
    rw [Bool.eq_false_iff, Ne, Sections.isAncestor_iff hs]
    intro h_around
    have h_id := h_around.index_lt_size
    rw [h_eq] at hm h_around h_id
    rw [size_sections] at h_id
    obtain ⟨e, he, rfl⟩ := exists_entry_of_get? hm
    exact (prefix_of_encloses hc he (List.getElem?_eq_getElem h_id) h_around).1 ho

/-- The sections `A` and `A/B` are repeated, the second by a node two levels down. -/
theorem Outline.ancestors_ofTags_repeats :
    let t := Outline.ofTags [⟨1, "A/B"⟩, ⟨2, "A"⟩, ⟨3, "A/B"⟩] '/'
    ∃ m n k r, t.get? ⟨0⟩ = some m ∧ t.get? ⟨1⟩ = some n ∧ t.get? ⟨2⟩ = some k ∧
      t.get? ⟨3⟩ = some r ∧ m.origin ≠ .duplicate ∧ n.origin ≠ .duplicate ∧
      k.origin = .duplicate ∧ r.origin = .duplicate ∧ (t.ancestors ⟨3⟩).length = r.depth ∧
      t.isAncestor ⟨0⟩ ⟨1⟩ = true ∧ t.isAncestor ⟨0⟩ ⟨3⟩ = true ∧
      t.isAncestor ⟨2⟩ ⟨3⟩ = false := by
  intro t
  obtain ⟨h_walk, h_sections, h_repeat, h_none⟩ :=
    Outline.ancestors_ofTags [⟨1, "A/B"⟩, ⟨2, "A"⟩, ⟨3, "A/B"⟩] '/'
  have hm : t.get? ⟨0⟩ = some ⟨"A", "A", 1, 0, .synthetic, none, [⟨1⟩, ⟨2⟩]⟩ := by decide +kernel
  have hn : t.get? ⟨1⟩ = some ⟨"B", "A/B", 1, 1, .tagged, some ⟨0⟩, [⟨3⟩]⟩ := by decide +kernel
  have hk : t.get? ⟨2⟩ = some ⟨"A", "A", 2, 1, .duplicate, some ⟨0⟩, []⟩ := by decide +kernel
  have hr : t.get? ⟨3⟩ = some ⟨"B", "A/B", 3, 2, .duplicate, some ⟨1⟩, []⟩ := by decide +kernel
  have h_around : t.isAncestor ⟨0⟩ ⟨1⟩ = true :=
    (h_sections ⟨0⟩ ⟨1⟩ _ _ hm hn (by decide) (by decide)).2 (by decide +kernel)
  obtain ⟨p, hp, h_iff⟩ := h_repeat ⟨3⟩ _ hr rfl
  obtain rfl : ⟨1⟩ = p := Option.some.inj hp
  exact ⟨_, _, _, _, hm, hn, hk, hr, by decide, by decide, rfl, rfl, (h_walk ⟨3⟩).2.2.2 _ hr,
    h_around, (h_iff ⟨0⟩).2 (.inr h_around), h_none ⟨2⟩ _ hk rfl ⟨3⟩⟩

end Showcase
