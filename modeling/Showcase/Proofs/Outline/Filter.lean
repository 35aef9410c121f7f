import Showcase.Proofs.Outline.Rows
import Showcase.Proofs.Text.Lowercase

/-!
# What a filter finds

A filter looks for its own lower case in the lower case of a title. Where the filter stands
in the title letter for letter, it is found unless lowering the title gives one of its
sigmas another form than lowering the filter alone does: `ΑΣ` ends in a final sigma, and
the same letters in `ΑΣΑ` do not. A filter without a capital sigma is therefore found
wherever it stands, and so is one that is cut out between two characters that separate
words. What is found is displayed and marked.
-/

namespace Showcase

namespace OutlineView

variable {s : Sections} {v : OutlineView} {id : NodeId}

theorem matches_iff (hfilter : v.hasFilter = true) :
    v.Matches s id ↔
      ∃ node, s.get? id = some node ∧ v.needle <:+: Text.lower node.title.toList := by
  rw [Matches, isMatch?, if_pos hfilter, Option.map_eq_some_iff]
  simp only [hits, Text.occursIn_iff]

/-- A match has a row, and the row says so. -/
theorem Matches.exists_mem_rows (hs : s.Linked) (h : v.Matches s id) :
    ∃ row ∈ v.rows s, row.id = id ∧ row.matched = true := by
  obtain ⟨row, hrow, rfl⟩ := List.mem_map.1 (h.mem_map_id_rows hs)
  obtain ⟨-, -, -, -, -, h_matched⟩ := exists_get?_of_mem_rows hs hrow
  exact ⟨row, hrow, rfl, h_matched.2 h⟩

/-- Where the filter stands in a title, the lower case of the title reads as the filter's
own exactly if the sigmas of the filter keep their form, as they do if there are none. Then
the section matches, and it is displayed and marked. -/
theorem matches_of_title_eq {tags : List Tag} {delimiter : Char} {node : OutlineNode}
    {before after : List Char} (hnode : (Outline.ofTags tags delimiter).get? id = some node)
    (hfilter : v.hasFilter = true)
    (htitle : node.title.toList = before ++ Text.trimBlanks v.filter.toList ++ after) :
    let s := (Outline.ofTags tags delimiter).toSections
    let word := Text.trimBlanks v.filter.toList
    (Text.lowerWithin before.reverse word after = v.needle ↔
        Text.KeepsSigmas before.reverse word after) ∧
      ('Σ' ∉ word → Text.KeepsSigmas before.reverse word after) ∧
      (Text.KeepsSigmas before.reverse word after →
        v.Matches s id ∧ ∃ row ∈ v.rows s, row.id = id ∧ row.matched = true) := by
  intro s word
  have h_iff : Text.lowerWithin before.reverse word after = v.needle ↔
      Text.KeepsSigmas before.reverse word after := Text.lowerWithin_eq_lower_iff
  refine ⟨h_iff, Text.keepsSigmas_of_not_mem, fun h_keeps => ?_⟩
  have h_infix : v.needle <:+: Text.lower node.title.toList := by
    rw [htitle, ← h_iff.2 h_keeps]
    exact Text.lowerWithin_infix_lower before word after
  have h_matches : v.Matches s id := (matches_iff hfilter).2 ⟨node, hnode, h_infix⟩
  exact ⟨h_matches, h_matches.exists_mem_rows (Sections.linked_ofTags tags delimiter)⟩

/-- The final sigma of the filter stands before a blank. -/
theorem matches_of_title_eq_final_sigma :
    let s := (Outline.ofTags [⟨1, "Α/ΟΔΟΣ ΑΒ"⟩] '/').toSections
    let v : OutlineView := { filter := " ΟΔΟΣ " }
    v.Matches s ⟨1⟩ ∧ ∃ row ∈ v.rows s, row.id = ⟨1⟩ ∧ row.matched = true := by
  intro s v
  have hnode : s.get? ⟨1⟩ = some ⟨"ΟΔΟΣ ΑΒ", "Α/ΟΔΟΣ ΑΒ", 1, 1, .tagged, some ⟨0⟩, []⟩ := by
    decide +kernel
  have htitle : "ΟΔΟΣ ΑΒ".toList =
      [] ++ Text.trimBlanks v.filter.toList ++ " ΑΒ".toList := by decide +kernel
  have h_keeps : Text.KeepsSigmas [].reverse (Text.trimBlanks v.filter.toList) " ΑΒ".toList := by
    refine Text.keepsSigmas_of_separates nofun fun c hc => ?_
    obtain rfl : ' ' = c := Option.some.inj hc
    decide +kernel
  exact (matches_of_title_eq hnode (by decide) htitle).2.2 h_keeps

/-- The sigma of the filter is final in the filter and not in the title. -/
theorem not_matches_inner_sigma :
    let s := (Outline.ofTags [⟨1, "ΑΣΑ"⟩] '/').toSections
    let v : OutlineView := { filter := "ΑΣ" }
    v.hasFilter = true ∧ ¬v.Matches s ⟨0⟩ ∧
      ∃ node, s.get? ⟨0⟩ = some node ∧
        Text.trimBlanks v.filter.toList <:+: node.title.toList := by
  intro s v
  have h_match : v.isMatch? s ⟨0⟩ = some false := by decide +kernel
  have hnode : s.get? ⟨0⟩ = some ⟨"ΑΣΑ", "ΑΣΑ", 1, 0, .tagged, none, []⟩ := by decide +kernel
  refine ⟨by decide, ?_, _, hnode, [], ['Α'], by decide +kernel⟩
  rw [Matches, h_match, Option.some_inj]
  exact Bool.false_ne_true

end OutlineView

end Showcase
