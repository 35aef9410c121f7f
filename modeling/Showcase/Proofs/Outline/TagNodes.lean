import Showcase.Proofs.Outline.Growth

/-!
# The nodes that stand for tags

Every tag with a segment gets one node of its own, the last one made for it: at its address
if that is new, or as a repeat if an earlier tag has its address as a prefix. The nodes made
on the way are synthetic. So the nodes that are not synthetic are those of the tags with a
segment, in the same order, and a tag without one leaves a warning instead.
-/

namespace Showcase

/-- The nodes that stand for a tag, in the order in which they were made. -/
def Sections.tagNodes (s : Sections) : List OutlineNode :=
  s.nodes.toList.filter fun node => node.origin ≠ .synthetic

theorem Sections.length_tagNodes (s : Sections) : s.tagNodes.length = s.tagCount := by
  rw [Sections.tagNodes, Sections.tagCount, List.countP_eq_length_filter]
  congr 2
  funext node
  cases node.origin <;> rfl

namespace Catalogue

variable {d : Char} {l : Catalogue} {line : Nat}

/-- The tags with a segment. -/
def named (d : Char) (tags : List Tag) : List Tag :=
  tags.filter fun tag => addressOf d tag ≠ []

/-- The entries that stand for a tag. -/
def tagEntries (l : Catalogue) : List Entry :=
  l.filter fun e => e.origin ≠ .synthetic

/-! ## What a tag adds -/

/-- Going down adds synthetic entries for new addresses on the way, and one last entry that
is not synthetic, all of them on the line of the tag. -/
theorem exists_descend_eq_append (line : Nat) (l : Catalogue) (above : Address)
    {rest : List (List Char)} (hne : rest ≠ []) :
    ∃ before : List Entry,
      descend line l above rest =
        l ++ before ++ [⟨line, above ++ rest,
          if (position? l (above ++ rest)).isSome then .duplicate else .tagged⟩] ∧
      ∀ e ∈ before, e.line = line ∧ e.origin = .synthetic ∧
        e.address.length < (above ++ rest).length := by
  induction rest generalizing l above with
  | nil => exact absurd rfl hne
  | cons segment rest ih =>
      have happ : above ++ segment :: rest = above ++ [segment] ++ rest := by simp
      rw [happ]
      by_cases hnil : rest = []
      · subst hnil
        refine ⟨[], ?_, by simp⟩
        cases hp : position? l (above ++ [segment]) with
        | some id =>
            rw [descend_cons_known (by simp [hp])]
            simp [hp, descend_nil]
        | none =>
            rw [descend_cons_unknown hp]
            simp [hp, descend_nil]
      · cases hp : position? l (above ++ [segment]) with
        | some id =>
            rw [descend_cons_known (by simp [hp]), if_neg (by simpa using hnil)]
            exact ih l (above ++ [segment]) hnil
        | none =>
            rw [descend_cons_unknown hp, if_neg (by simpa using hnil)]
            obtain ⟨before, heq, hbefore⟩ :=
              ih (l ++ [⟨line, above ++ [segment], .synthetic⟩]) (above ++ [segment]) hnil
            have hkeep : position? (l ++ [⟨line, above ++ [segment], .synthetic⟩])
                (above ++ [segment] ++ rest) = position? l (above ++ [segment] ++ rest) := by
              rw [position?_concat, if_neg (by simpa using hnil), Option.or_none]
            refine ⟨⟨line, above ++ [segment], .synthetic⟩ :: before, ?_, ?_⟩
            · rw [heq, hkeep]
              simp
            · intro e he
              rcases List.mem_cons.1 he with rfl | he
              · have := List.length_pos_iff.2 hnil
                simp
                omega
              · exact hbefore e he

theorem add_of_address_eq_nil {tag : Tag} (h : addressOf d tag = []) : add d l tag = l := by
  rw [add, h, descend_nil]

/-- The entry that a tag is given for itself. -/
def tagEntry (d : Char) (l : Catalogue) (tag : Tag) : Entry where
  line := tag.line
  address := addressOf d tag
  origin := if (position? l (addressOf d tag)).isSome then .duplicate else .tagged

theorem origin_tagEntry_ne (d : Char) (l : Catalogue) (tag : Tag) :
    (tagEntry d l tag).origin ≠ .synthetic := by
  rw [tagEntry]
  split
  · exact NodeOrigin.noConfusion
  · exact NodeOrigin.noConfusion

theorem exists_add_eq_append (l : Catalogue) {tag : Tag} (h : addressOf d tag ≠ []) :
    ∃ way : List Entry, add d l tag = l ++ way ++ [tagEntry d l tag] ∧
      ∀ e ∈ way, e.line = tag.line ∧ e.origin = .synthetic ∧
        e.address.length < (addressOf d tag).length :=
  exists_descend_eq_append tag.line l [] h

theorem tagEntries_append (l l' : Catalogue) :
    tagEntries (l ++ l') = tagEntries l ++ tagEntries l' :=
  List.filter_append l l'

theorem tagEntries_eq_nil (h : ∀ e ∈ l, e.origin = .synthetic) : tagEntries l = [] := by
  rw [tagEntries, List.filter_eq_nil_iff]
  intro e he
  simp [h e he]

theorem tagEntries_singleton {e : Entry} (h : e.origin ≠ .synthetic) : tagEntries [e] = [e] :=
  List.filter_cons_of_pos (decide_eq_true h)

theorem tagEntries_add (d : Char) (l : Catalogue) (tag : Tag) :
    tagEntries (add d l tag) =
      tagEntries l ++ if addressOf d tag = [] then [] else [tagEntry d l tag] := by
  by_cases hnil : addressOf d tag = []
  · rw [add_of_address_eq_nil hnil, if_pos hnil, List.append_nil]
  · obtain ⟨way, h_eq, h_way⟩ := exists_add_eq_append l hnil
    rw [h_eq, if_neg hnil, tagEntries_append, tagEntries_append,
      tagEntries_eq_nil fun e he => (h_way e he).2.1,
      tagEntries_singleton (origin_tagEntry_ne d l tag), List.append_nil]

/-! ## Which addresses are known -/

theorem isSome_position?_descend (line : Nat) (l : Catalogue) (above : Address)
    (rest : List (List Char)) (a : Address) :
    (position? (descend line l above rest) a).isSome ↔
      (position? l a).isSome ∨ ∃ n < rest.length, a = above ++ rest.take (n + 1) := by
  induction rest generalizing l above with
  | nil => simp [descend_nil]
  | cons segment rest ih =>
      have hway : (∃ n < (segment :: rest).length, a = above ++ (segment :: rest).take (n + 1)) ↔
          a = above ++ [segment] ∨
            ∃ n < rest.length, a = above ++ [segment] ++ rest.take (n + 1) := by
        constructor
        · rintro ⟨n, hn, rfl⟩
          cases n with
          | zero => simp
          | succ n => exact Or.inr ⟨n, by simpa using hn, by simp⟩
        · rintro (rfl | ⟨n, hn, rfl⟩)
          · exact ⟨0, by simp, by simp⟩
          · exact ⟨n + 1, by simpa using hn, by simp⟩
      rw [hway, ← or_assoc]
      cases hp : position? l (above ++ [segment]) with
      | some id =>
          have hknown : a = above ++ [segment] → (position? l a).isSome := by
            rintro rfl
            simp [hp]
          rw [descend_cons_known (by simp [hp]), ih, or_iff_left_of_imp hknown]
          split
          · rw [position?_concat]
            by_cases ha : above ++ [segment] = a
            · simp [ha, hknown ha.symm]
            · simp [ha]
          · rfl
      | none =>
          rw [descend_cons_unknown hp, ih, position?_concat]
          by_cases ha : above ++ [segment] = a
          · simp [ha]
          · simp [ha, Ne.symm ha]

theorem isSome_position?_add (d : Char) (l : Catalogue) (tag : Tag) (a : Address) :
    (position? (add d l tag) a).isSome ↔
      (position? l a).isSome ∨ a ≠ [] ∧ a <+: addressOf d tag := by
  rw [add, isSome_position?_descend]
  refine or_congr_right ?_
  constructor
  · rintro ⟨n, hn, rfl⟩
    refine ⟨?_, List.take_prefix _ _⟩
    rw [List.nil_append, Ne, List.take_eq_nil_iff, not_or]
    exact ⟨by omega, List.length_pos_iff.1 (by omega)⟩
  · rintro ⟨hne, hpre⟩
    have hpos := List.length_pos_iff.2 hne
    have hle := hpre.length_le
    refine ⟨a.length - 1, by omega, ?_⟩
    rw [List.nil_append, Nat.sub_add_cancel hpos]
    exact List.prefix_iff_eq_take.1 hpre

theorem ofTags_concat (d : Char) (tags : List Tag) (tag : Tag) :
    ofTags d (tags ++ [tag]) = add d (ofTags d tags) tag := by
  rw [ofTags, List.foldl_append]
  rfl

/-- The known addresses are the prefixes of the addresses of the tags. -/
theorem isSome_position?_ofTags (d : Char) (tags : List Tag) (a : Address) :
    (position? (ofTags d tags) a).isSome ↔ a ≠ [] ∧ ∃ tag ∈ tags, a <+: addressOf d tag := by
  induction tags using List.reverseRecOn with
  | nil => simp [ofTags]
  | append_singleton tags tag ih =>
      rw [ofTags_concat, isSome_position?_add, ih, ← and_or_left]
      simp [or_and_right, exists_or]

/-! ## One node for each tag -/

/-- How the node of a tag comes to be, given the tags with a segment before it. -/
def tagOrigin (d : Char) (earlier : List Tag) (tag : Tag) : NodeOrigin :=
  if ∃ other ∈ earlier, addressOf d tag <+: addressOf d other then .duplicate else .tagged

/-- A tag without a segment has no address that lies on the way to another one. -/
theorem exists_prefix_named_iff {d : Char} {tags : List Tag} {a : Address} (ha : a ≠ []) :
    (∃ tag ∈ named d tags, a <+: addressOf d tag) ↔ ∃ tag ∈ tags, a <+: addressOf d tag := by
  constructor
  · rintro ⟨tag, htag, hpre⟩
    exact ⟨tag, (List.mem_filter.1 htag).1, hpre⟩
  · rintro ⟨tag, htag, hpre⟩
    refine ⟨tag, List.mem_filter.2 ⟨htag, ?_⟩, hpre⟩
    rw [decide_eq_true_eq]
    intro hnil
    rw [hnil, List.prefix_nil] at hpre
    exact ha hpre

theorem named_concat (d : Char) (tags : List Tag) (tag : Tag) :
    named d (tags ++ [tag]) = named d tags ++ if addressOf d tag = [] then [] else [tag] := by
  unfold named
  rw [List.filter_append]
  congr 1
  by_cases h : addressOf d tag = []
  · simp [h]
  · simp [h]

theorem tagEntries_ofTags (d : Char) (tags : List Tag) :
    tagEntries (ofTags d tags) =
      (named d tags).mapIdx fun i tag =>
        ⟨tag.line, addressOf d tag, tagOrigin d ((named d tags).take i) tag⟩ := by
  induction tags using List.reverseRecOn with
  | nil => rfl
  | append_singleton tags tag ih =>
      rw [ofTags_concat, tagEntries_add, ih, named_concat]
      by_cases hnil : addressOf d tag = []
      · simp [hnil]
      · rw [if_neg hnil, if_neg hnil, List.mapIdx_concat, List.take_left']
        · have horigin : tagOrigin d (named d tags) tag =
              if (position? (ofTags d tags) (addressOf d tag)).isSome then .duplicate
              else .tagged := by
            simp only [tagOrigin, isSome_position?_ofTags, exists_prefix_named_iff hnil]
            simp [hnil]
          rw [tagEntry, horigin]
          congr 1
          rw [List.mapIdx_eq_mapIdx_iff]
          intro i hi
          rw [List.take_append_of_le_length (Nat.le_of_lt hi)]
        · rfl

theorem isEmptyTag_of_mem_repeatWarnings {a : Address} {w : Warning}
    (h : w ∈ repeatWarnings d l line a) : w.isEmptyTag = false := by
  unfold repeatWarnings at h
  split at h
  · rw [List.mem_singleton] at h
    subst h
    rfl
  · simp at h

theorem filter_isEmptyTag_tagWarnings (d : Char) (l : Catalogue) (tag : Tag) :
    (tagWarnings d l tag).filter Warning.isEmptyTag =
      if addressOf d tag = [] then [.emptyTag tag.line] else [] := by
  unfold tagWarnings
  by_cases hnil : addressOf d tag = []
  · rw [if_pos (List.isEmpty_iff.2 hnil), if_pos hnil]
    rfl
  · rw [if_neg (mt List.isEmpty_iff.1 hnil), if_neg hnil, List.filter_eq_nil_iff]
    intro w hw
    rw [isEmptyTag_of_mem_repeatWarnings hw]
    exact Bool.false_ne_true

/-- Exactly the tags without a segment leave a warning that says so. -/
theorem filter_isEmptyTag_warningsFrom (d : Char) (l : Catalogue) (tags : List Tag) :
    (warningsFrom d l tags).filter Warning.isEmptyTag =
      (tags.filter fun tag => addressOf d tag = []).map fun tag => .emptyTag tag.line := by
  induction tags generalizing l with
  | nil => rfl
  | cons tag tags ih =>
      rw [warningsFrom, List.filter_append, filter_isEmptyTag_tagWarnings, ih, List.filter_cons]
      by_cases hnil : addressOf d tag = []
      · simp [hnil]
      · simp [hnil]

theorem countP_isEmptyTag_warningsFrom (d : Char) (l : Catalogue) (tags : List Tag) :
    (warningsFrom d l tags).countP Warning.isEmptyTag =
      tags.countP fun tag => addressOf d tag = [] := by
  rw [List.countP_eq_length_filter, filter_isEmptyTag_warningsFrom, List.length_map,
    ← List.countP_eq_length_filter]

/-- What is read off the nodes for tags can be read off the entries for tags. -/
theorem map_tagNodes_sections {α : Type} (warnings : List Warning) (f : OutlineNode → α)
    (g : Entry → α) (h : ∀ i e, f (node d l i e) = g e) :
    (sections d l warnings).tagNodes.map f = (tagEntries l).map g := by
  have hnodes : (sections d l warnings).tagNodes.map f =
      (l.mapIdx (node d l)).filterMap fun n =>
        if n.origin ≠ .synthetic then some (f n) else none := by
    rw [Sections.tagNodes, ← List.filterMap_eq_filter, List.map_filterMap]
    apply List.filterMap_congr
    intro n _
    by_cases hn : n.origin = .synthetic
    · simp [hn]
    · simp [hn]
  have hentries : (tagEntries l).map g =
      l.filterMap fun e => if e.origin ≠ .synthetic then some (g e) else none := by
    rw [tagEntries, ← List.filterMap_eq_filter, List.map_filterMap]
    apply List.filterMap_congr
    intro e _
    by_cases he : e.origin = .synthetic
    · simp [he]
    · simp [he]
  rw [hnodes, hentries, List.mapIdx_eq_zipIdx_map, List.filterMap_map]
  conv_rhs => rw [← List.zipIdx_map_fst 0 l, List.filterMap_map]
  apply List.filterMap_congr
  intro p _
  have horigin : (node d l p.2 p.1).origin = p.1.origin := rfl
  simp [h, horigin]

end Catalogue

open Catalogue in
/-- The nodes for tags are, one by one and in order, those of the tags with a segment: on the
line of the tag, known by its joined segments, titled by the last of them, and a repeat
exactly if the address of the tag is a prefix of the address of an earlier one. The other
tags are counted by the warnings about empty tags. -/
theorem Outline.tagNodes_ofTags (tags : List Tag) (d : Char) :
    ((Outline.ofTags tags d).tagNodes.map fun n => (n.line, n.path, n.title, n.origin)) =
        ((named d tags).mapIdx fun i tag =>
          (tag.line, String.ofList (Text.joinWith d (addressOf d tag)),
            String.ofList ((addressOf d tag).getLastD []),
            tagOrigin d ((named d tags).take i) tag)) ∧
      (Outline.ofTags tags d).tagCount +
        (Outline.ofTags tags d).warnings.countP Warning.isEmptyTag = tags.length := by
  have hnodes := map_tagNodes_sections (d := d) (l := Catalogue.ofTags d tags)
    (warningsFrom d [] tags) (fun n => (n.line, n.path, n.title, n.origin))
    (fun e => (e.line, e.path d, e.title, e.origin)) (fun _ _ => rfl)
  have houtline : (Outline.ofTags tags d).toSections =
      sections d (Catalogue.ofTags d tags) (warningsFrom d [] tags) :=
    Sections.ofTags_eq_sections tags d
  rw [tagEntries_ofTags] at hnodes
  rw [← Sections.length_tagNodes, houtline]
  constructor
  · rw [hnodes, List.mapIdx_eq_zipIdx_map, List.mapIdx_eq_zipIdx_map, List.map_map]
    apply List.map_congr_left
    intro p _
    simp [Entry.title, Entry.path]
  · have hlen : (sections d (Catalogue.ofTags d tags) (warningsFrom d [] tags)).tagNodes.length =
        tags.countP fun tag => addressOf d tag ≠ [] := by
      rw [← List.length_map, hnodes, List.length_map, List.length_mapIdx,
        List.countP_eq_length_filter]
      rfl
    show _ + (warningsFrom d [] tags).countP Warning.isEmptyTag = _
    rw [hlen, countP_isEmptyTag_warningsFrom, Nat.add_comm,
      List.length_eq_countP_add_countP (fun tag => decide (addressOf d tag = []))]
    simp

end Showcase
