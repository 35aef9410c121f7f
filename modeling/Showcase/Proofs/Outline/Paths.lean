import Showcase.Proofs.Outline.Nesting
import Showcase.Proofs.Outline.Prefixes

/-!
# What a path leads to

A path leads to a section exactly if it is the joined form of a prefix of the address of a
tag, and `IsSectionAt` describes the section in full: it is the only node with that path that
is no repeat, it lies in the section whose address lacks the last segment, and it stands on
the line of the first tag with that prefix. Because joining loses nothing, it does not matter
that sections are looked up by a text. A repeat lies in the section that its own path leads
to, and nothing lies in a repeat.
-/

namespace Showcase

open Catalogue (addressOf)

/-- What the section with an address is like, `tag` being the first tag that has the address
as a prefix. -/
structure Outline.IsSectionAt (t : Outline) (d : Char) (a : Address) (tag : Tag) (id : NodeId)
    (node : OutlineNode) : Prop where
  get? : t.get? id = some node
  path : node.path = pathOf d a
  title : node.title = String.ofList (a.getLastD [])
  depth : node.depth + 1 = a.length
  parent : node.parent = if a.length = 1 then none else t.find? (pathOf d a.dropLast)
  line : node.line = tag.line
  origin : node.origin = if a = addressOf d tag then .tagged else .synthetic
  /-- No other node with this path is more than a repeat. -/
  unique : ∀ other m, t.get? other = some m → m.origin ≠ .duplicate → m.path = pathOf d a →
    other = id

namespace Catalogue

variable {d : Char} {l : Catalogue} {warnings : List Warning} {a : Address}

/-! ## Looking a path up -/

theorem exists_mem_of_find?_sections {path : String} {id : NodeId}
    (h : (sections d l warnings).find? path = some id) : ∃ e ∈ l, path = e.path d := by
  have h_lookup : (paths d l).lookup path = some id := h
  obtain ⟨front, back, h_eq, -⟩ := List.lookup_eq_some_iff.1 h_lookup
  have h_mem : (path, id) ∈ paths d l := by
    rw [h_eq]
    exact List.mem_append_right front List.mem_cons_self
  rw [paths, List.mem_reverse, List.mem_map] at h_mem
  obtain ⟨p, hp, h_pair⟩ := h_mem
  exact ⟨p.1, List.fst_mem_of_mem_zipIdx (List.mem_filter.1 hp).1,
    (congrArg Prod.fst h_pair).symm⟩

/-- Only the joined forms of known addresses lead anywhere. -/
theorem isSome_find?_sections (hc : Grown d l) (path : String) :
    ((sections d l warnings).find? path).isSome ↔
      ∃ a, (position? l a).isSome ∧ path = pathOf d a := by
  constructor
  · intro h
    obtain ⟨id, hid⟩ := Option.isSome_iff_exists.1 h
    obtain ⟨e, he, rfl⟩ := exists_mem_of_find?_sections hid
    exact ⟨e.address, isSome_position?_iff.2 ⟨e, he, rfl⟩, rfl⟩
  · rintro ⟨a, ha, rfl⟩
    obtain ⟨e, he, rfl⟩ := isSome_position?_iff.1 ha
    rw [find?_sections hc fun segment hs => hc.isSegment he hs]
    exact ha

/-- A node with the path of a section is that section or repeats it. -/
theorem eq_of_path_eq (hc : Grown d l) {id other : NodeId} {m : OutlineNode}
    (hid : position? l a = some id) (hm : (sections d l warnings).get? other = some m)
    (ho : m.origin ≠ .duplicate) (hpath : m.path = pathOf d a) : other = id := by
  obtain ⟨e, he, rfl⟩ := getElem?_of_position? hid
  rw [get?_sections, Option.map_eq_some_iff] at hm
  obtain ⟨f, hf, rfl⟩ := hm
  have h_address : f.address = e.address := by
    have h_join : Text.joinWith d f.address = Text.joinWith d e.address :=
      String.ofList_inj.1 hpath
    exact (Text.joinWith_inj (fun s hs => hc.isSegment (List.mem_of_getElem? hf) hs)
      (fun s hs => hc.isSegment (List.mem_of_getElem? he) hs)).1 h_join
  have h_other : position? l f.address = some ⟨other.index⟩ := hc.position?_address hf ho
  rw [h_address, hid] at h_other
  exact (Option.some.inj h_other).symm

/-- Nothing lies in a repeat, because the first node with its address is another one. -/
theorem inside_of_duplicate (hc : Grown d l) {id : NodeId} {e : Entry}
    (he : l[id.index]? = some e) (ho : e.origin = .duplicate) : inside l (some id) = [] := by
  rw [List.eq_nil_iff_forall_not_mem]
  intro child h_child
  obtain ⟨-, h_parent⟩ := mem_inside.1 h_child
  obtain ⟨f, -, h_above⟩ := Option.bind_eq_some_iff.1 h_parent
  exact hc.origin_of_position? h_above he ho

end Catalogue

open Catalogue in
/-- The section of a prefix of a tag is found under its joined form. -/
theorem Outline.exists_isSectionAt {tags : List Tag} {d : Char} {a : Address} {tag : Tag}
    (ha : a ≠ []) (htag : (tags.find? fun tag => a <+: addressOf d tag) = some tag) :
    ∃ id node, (Outline.ofTags tags d).find? (pathOf d a) = some id ∧
      (Outline.ofTags tags d).IsSectionAt d a tag id node := by
  have hc : Grown d (Catalogue.ofTags d tags) := grown_ofTags d tags
  have hpre : a <+: addressOf d tag := by simpa using List.find?_some htag
  have hseg : ∀ segment ∈ a, Text.IsSegment d segment :=
    fun segment hs => isSegment_of_mem_addressOf (hpre.subset hs)
  have hseg' : ∀ segment ∈ a.dropLast, Text.IsSegment d segment :=
    fun segment hs => hseg segment (List.mem_of_mem_dropLast hs)
  obtain ⟨e, h_e⟩ : ∃ e : Entry,
      e = ⟨tag.line, a, if a = addressOf d tag then .tagged else .synthetic⟩ := ⟨_, rfl⟩
  have h_first := first?_ofTags d tags ha
  rw [htag, Option.map_some, ← h_e, first?_eq_bind_position?, Option.bind_eq_some_iff] at h_first
  obtain ⟨id, hid, he⟩ := h_first
  have h_above : e.above = a.dropLast := by
    rw [Entry.above_of_ne_duplicate (hc.origin_of_position? hid he), h_e]
  refine ⟨id, node d (Catalogue.ofTags d tags) id.index e, ?_, ?_, ?_, ?_, ?_, ?_, ?_, ?_, ?_⟩
  · rw [toSections_ofTags, find?_sections hc hseg, hid]
  · rw [toSections_ofTags, get?_sections, he, Option.map_some]
  · rw [node, Entry.path, h_e]
  · rw [node, Entry.title, h_e, List.getLastD_eq_getLast?]
  · rw [node, h_above, List.length_dropLast]
    exact Nat.sub_add_cancel (List.length_pos_iff.2 ha)
  · rw [node, h_above, toSections_ofTags, find?_sections hc hseg']
    split
    · rename_i h_one
      have h_top : a.dropLast = [] := by
        rw [← List.length_eq_zero_iff, List.length_dropLast, h_one]
      rw [h_top, hc.position?_nil]
    · rfl
  · rw [node, h_e]
  · rw [node, h_e]
  · intro other m hm
    rw [toSections_ofTags] at hm
    exact eq_of_path_eq hc hid hm

open Catalogue in
/-- A repeat lies in the section that its path leads to, and nothing lies in it. -/
theorem Outline.parent_of_duplicate {tags : List Tag} {d : Char} {id : NodeId}
    {node : OutlineNode} (hnode : (Outline.ofTags tags d).get? id = some node)
    (ho : node.origin = .duplicate) :
    node.children = [] ∧ ∃ p, (Outline.ofTags tags d).find? node.path = some p ∧
      node.parent = some p := by
  have hc : Grown d (Catalogue.ofTags d tags) := grown_ofTags d tags
  rw [toSections_ofTags] at hnode ⊢
  rw [get?_sections, Option.map_eq_some_iff] at hnode
  obtain ⟨e, he, rfl⟩ := hnode
  have h_mem : e ∈ Catalogue.ofTags d tags := List.mem_of_getElem? he
  have h_above : e.above = e.address := Entry.above_of_duplicate ho
  have h_known : (position? (Catalogue.ofTags d tags) e.address).isSome :=
    isSome_position?_iff.2 ⟨e, h_mem, rfl⟩
  obtain ⟨p, hp⟩ := Option.isSome_iff_exists.1 h_known
  refine ⟨inside_of_duplicate hc he ho, p, ?_, ?_⟩
  · rw [← hp]
    exact find?_sections hc fun segment hs => hc.isSegment h_mem hs
  · rw [← hp, ← h_above]
    rfl

open Catalogue in
/-- A path leads to a section exactly if it is the joined form of a prefix of a tag, and this
section is described by its address and the first tag with that prefix. A repeat lies in the
section that its path leads to, and nothing lies in it. -/
theorem Outline.find?_ofTags (tags : List Tag) (d : Char) :
    (∀ path, ((Outline.ofTags tags d).find? path).isSome ↔
      ∃ tag ∈ tags, ∃ a, a ≠ [] ∧ a <+: addressOf d tag ∧ path = pathOf d a) ∧
    (∀ a tag, a ≠ [] → (tags.find? fun tag => a <+: addressOf d tag) = some tag →
      ∃ id node, (Outline.ofTags tags d).find? (pathOf d a) = some id ∧
        (Outline.ofTags tags d).IsSectionAt d a tag id node) ∧
    ∀ id node, (Outline.ofTags tags d).get? id = some node → node.origin = .duplicate →
      node.children = [] ∧ ∃ p, (Outline.ofTags tags d).find? node.path = some p ∧
        node.parent = some p := by
  refine ⟨?_, fun a tag => exists_isSectionAt, fun id node => parent_of_duplicate⟩
  intro path
  rw [toSections_ofTags, isSome_find?_sections (grown_ofTags d tags)]
  constructor
  · rintro ⟨a, ha, rfl⟩
    obtain ⟨hne, tag, htag, hpre⟩ := (isSome_position?_ofTags d tags a).1 ha
    exact ⟨tag, htag, a, hne, hpre, rfl⟩
  · rintro ⟨tag, htag, a, hne, hpre, rfl⟩
    exact ⟨a, (isSome_position?_ofTags d tags a).2 ⟨hne, tag, htag, hpre⟩, rfl⟩

/-- The section `A` is made for the tag `A/B`, and the later tag `A` repeats it. -/
theorem Outline.find?_ofTags_late_tag :
    ∃ (tags : List Tag) (id : NodeId) (node repeated : OutlineNode),
      tags = [⟨1, "A/B"⟩, ⟨2, "C"⟩, ⟨3, " A"⟩] ∧
        (tags.find? fun tag => [['A']] <+: addressOf '/' tag) = some ⟨1, "A/B"⟩ ∧
        (Outline.ofTags tags '/').find? "A" = some id ∧
        (Outline.ofTags tags '/').IsSectionAt '/' [['A']] ⟨1, "A/B"⟩ id node ∧
        (Outline.ofTags tags '/').get? ⟨3⟩ = some repeated ∧ repeated.origin = .duplicate ∧
        repeated.children = [] ∧ repeated.parent = some id := by
  obtain ⟨-, h_section, h_repeat⟩ :=
    Outline.find?_ofTags [⟨1, "A/B"⟩, ⟨2, "C"⟩, ⟨3, " A"⟩] '/'
  have h_first : (([⟨1, "A/B"⟩, ⟨2, "C"⟩, ⟨3, " A"⟩] : List Tag).find? fun tag =>
      [['A']] <+: addressOf '/' tag) = some ⟨1, "A/B"⟩ := by decide
  obtain ⟨id, node, hid, hnode⟩ := h_section [['A']] ⟨1, "A/B"⟩ (by decide) h_first
  have h_get : (Outline.ofTags [⟨1, "A/B"⟩, ⟨2, "C"⟩, ⟨3, " A"⟩] '/').get? ⟨3⟩ =
      some ⟨"A", "A", 3, 1, .duplicate, some ⟨0⟩, []⟩ := by decide +kernel
  obtain ⟨h_children, p, hp, h_parent⟩ := h_repeat ⟨3⟩ _ h_get rfl
  obtain rfl : id = p := Option.some.inj (hid.symm.trans hp)
  exact ⟨_, id, node, _, rfl, h_first, hid, hnode, h_get, rfl, h_children, h_parent⟩

end Showcase
