import Showcase.Proofs.Outline.Rows

/-!
# Expanding sections

Whether a section is shown is a matter of the filter alone, and expanding sections can only
open them. So a view with more of them expanded displays all that a view with fewer displays, in
the same order. Revealing a section expands what is around it, and expanding everything expands
whatever has something inside; after the one nothing but the filter can hide the section, and
after the other nothing else can hide any.
-/

namespace Showcase

namespace Sections

/-- What is selected from a list without repetition is told by its members. -/
theorem filter_mem_of_sublist {order kept : List NodeId} (horder : order.Nodup)
    (h : kept.Sublist order) : order.filter (· ∈ kept) = kept := by
  induction h with
  | slnil => rfl
  | @cons kept order id h ih =>
      obtain ⟨h_notin, h_nodup⟩ := List.nodup_cons.1 horder
      have h_left : ¬ decide (id ∈ kept) = true := by
        rw [decide_eq_true_eq]
        exact fun h_mem => h_notin (h.subset h_mem)
      rw [List.filter_cons, if_neg h_left, ih h_nodup]
  | @cons_cons kept order id h ih =>
      obtain ⟨h_notin, h_nodup⟩ := List.nodup_cons.1 horder
      have h_rest : order.filter (· ∈ id :: kept) = order.filter (· ∈ kept) := by
        apply List.filter_congr
        intro a ha
        have h_ne : a ≠ id := fun h_eq => h_notin (h_eq ▸ ha)
        simp [h_ne]
      rw [List.filter_cons_of_pos (by simp), h_rest, ih h_nodup]

/-- Of two walks, the one that meets fewer nodes meets them in the order of the other. -/
theorem walk_sublist_walk {s : Sections} (hs : s.Linked)
    {shown shown' opened opened' : NodeId → Bool}
    (h : ∀ id ∈ s.walk shown opened, id ∈ s.walk shown' opened') :
    (s.walk shown opened).Sublist (s.walk shown' opened') := by
  obtain ⟨order, h_order⟩ := exists_traversal hs s.roots
  have h_nodup : order.Nodup := (h_order.perm_ids hs).nodup_iff.2 (nodup_ids s)
  have h_few : (s.walk shown opened).Sublist order := (h_order.walk hs).1
  have h_many : (s.walk shown' opened').Sublist order := (h_order.walk hs).1
  rw [← filter_mem_of_sublist h_nodup h_few, ← filter_mem_of_sublist h_nodup h_many]
  apply List.monotone_filter_right
  intro id h_mem
  exact decide_eq_true (h id (of_decide_eq_true h_mem))

end Sections

namespace OutlineView

variable {s : Sections} {v w : OutlineView} {id : NodeId}

/-! ## What the filter alone decides -/

theorem matches_congr (h : w.filter = v.filter) : w.Matches s id ↔ v.Matches s id := by
  rw [Matches, Matches, isMatch?, isMatch?, hasFilter, hasFilter, h]
  have h_hits : w.hits = v.hits := by
    funext node
    rw [hits, hits, needle, needle, h]
  rw [h_hits]

theorem shows_congr (h : w.filter = v.filter) : w.Shows s id ↔ v.Shows s id := by
  simp only [Shows, matches_congr h, hasFilter, h]

/-! ## More expanded -/

theorem Opens.of_subset (hfilter : w.filter = v.filter) (hexpanded : v.expanded ⊆ w.expanded)
    (h : v.Opens s id) : w.Opens s id := by
  rcases h with h | ⟨below, h_below, h⟩
  · exact .inl (hexpanded h)
  · exact .inr ⟨below, h_below, (matches_congr hfilter).2 h⟩

/-- With more expanded, the rows stay in order and others come in between. -/
theorem rows_sublist_rows (hs : s.Linked) (hfilter : w.filter = v.filter)
    (hexpanded : v.expanded ⊆ w.expanded) :
    ((v.rows s).map (·.id)).Sublist ((w.rows s).map (·.id)) := by
  have h_rows : ∀ id ∈ (v.rows s).map (·.id), id ∈ (w.rows s).map (·.id) := by
    intro id h
    obtain ⟨h_size, h_shows, h_opens⟩ := (mem_map_id_rows hs).1 h
    refine (mem_map_id_rows hs).2 ⟨h_size, (shows_congr hfilter).2 h_shows, ?_⟩
    exact fun a ha => (h_opens a ha).of_subset hfilter hexpanded
  simp only [map_id_rows] at h_rows ⊢
  exact Sections.walk_sublist_walk hs h_rows

/-! ## Revealing a section, and expanding everything -/

theorem filter_foldl_expand (ids : List NodeId) (v : OutlineView) :
    (ids.foldl expand v).filter = v.filter := by
  induction ids generalizing v with
  | nil => rfl
  | cons id ids ih => exact ih (v.expand id)

/-- Where everything around the shown sections is expanded, all of them are displayed. -/
theorem mem_map_id_rows_of_expanded (hs : s.Linked) (hfilter : w.filter = v.filter)
    (hexpanded : ∀ a, s.Encloses a id → a ∈ w.expanded) :
    id ∈ (w.rows s).map (·.id) ↔ id.index < s.size ∧ v.Shows s id := by
  rw [mem_map_id_rows hs, shows_congr hfilter]
  constructor
  · rintro ⟨h_size, h_shows, -⟩
    exact ⟨h_size, h_shows⟩
  · rintro ⟨h_size, h_shows⟩
    exact ⟨h_size, h_shows, fun a ha => .inl (hexpanded a ha)⟩

theorem mem_rows_reveal (hs : s.Linked) :
    id ∈ ((v.reveal s id).rows s).map (·.id) ↔ id.index < s.size ∧ v.Shows s id := by
  apply mem_map_id_rows_of_expanded hs (filter_foldl_expand _ v)
  intro a ha
  exact mem_expanded_reveal.2 (.inl ((Sections.mem_ancestors_iff hs).2 ha))

theorem mem_rows_expandAll (hs : s.Linked) :
    id ∈ ((v.expandAll s).rows s).map (·.id) ↔ id.index < s.size ∧ v.Shows s id := by
  apply mem_map_id_rows_of_expanded hs (filter_foldl_expand _ v)
  intro a ha
  refine mem_expanded_foldl_expand.2 (.inl (List.mem_filter.2 ⟨?_, ?_⟩))
  · exact Sections.mem_ids.2 (Nat.lt_trans (ha.index_lt hs) ha.index_lt_size)
  · simpa using ha.childrenOf_ne_nil hs

end OutlineView

/-- A view with more expanded displays the rows of one with less, in order. Revealing a section
takes nothing out of the expanded set and asks to scroll to it. The section is then displayed
exactly if there is no filter, or one that finds the section or something around or inside it.
Expanding everything displays all sections of which this is true. -/
theorem OutlineView.expanding_adds_rows (v : OutlineView) (tags : List Tag) (d : Char) :
    let s := (Outline.ofTags tags d).toSections
    (∀ w : OutlineView, w.filter = v.filter → v.expanded ⊆ w.expanded →
        ((v.rows s).map (·.id)).Sublist ((w.rows s).map (·.id))) ∧
      (∀ id, id.index < s.size →
        v.expanded ⊆ (v.reveal s id).expanded ∧ (v.reveal s id).scrollTarget = some id ∧
          (id ∈ ((v.reveal s id).rows s).map (·.id) ↔ v.Shows s id)) ∧
      ∀ id, id.index < s.size →
        (id ∈ ((v.expandAll s).rows s).map (·.id) ↔ v.Shows s id) := by
  intro s
  have hs : s.Linked := Sections.linked_ofTags tags d
  refine ⟨fun w => rows_sublist_rows hs, ?_, ?_⟩
  · intro id h_size
    refine ⟨fun a ha => mem_expanded_reveal.2 (.inr ha), rfl, ?_⟩
    rw [mem_rows_reveal hs, and_iff_right h_size]
  · intro id h_size
    rw [mem_rows_expandAll hs, and_iff_right h_size]

/-- The filter finds the middle one of three nested sections, so the innermost is shown as well,
but not displayed before the other two are expanded. -/
theorem OutlineView.expanding_adds_rows_inside_match :
    let s := (Outline.ofTags [⟨1, "A/B/C"⟩, ⟨2, "D"⟩] '/').toSections
    let v : OutlineView := { filter := "b" }
    let w : OutlineView := { filter := "b", expanded := [⟨1⟩, ⟨7⟩] }
    w.filter = v.filter ∧ v.expanded ⊆ w.expanded ∧
      ((v.rows s).map (·.id)).Sublist ((w.rows s).map (·.id)) ∧
      (⟨2⟩ : NodeId).index < s.size ∧ ⟨2⟩ ∉ (v.rows s).map (·.id) ∧
      ⟨2⟩ ∈ ((v.reveal s ⟨2⟩).rows s).map (·.id) ∧
      ⟨2⟩ ∈ ((v.expandAll s).rows s).map (·.id) := by
  intro s v w
  obtain ⟨h_rows, h_reveal, h_all⟩ := v.expanding_adds_rows [⟨1, "A/B/C"⟩, ⟨2, "D"⟩] '/'
  have h_size : (⟨2⟩ : NodeId).index < s.size := by decide +kernel
  have h_hidden : ⟨2⟩ ∉ (v.rows s).map (·.id) := by decide +kernel
  have h_around : s.Encloses ⟨1⟩ ⟨2⟩ := .parent (by decide +kernel)
  have h_match : v.Matches s ⟨1⟩ := by
    rw [Matches]
    decide +kernel
  have h_shows : v.Shows s ⟨2⟩ := .inr (.inr (.inr ⟨⟨1⟩, h_around, h_match⟩))
  exact ⟨rfl, List.nil_subset _, h_rows w rfl (List.nil_subset _), h_size, h_hidden,
    (h_reveal ⟨2⟩ h_size).2.2.2 h_shows, (h_all ⟨2⟩ h_size).2 h_shows⟩

end Showcase
