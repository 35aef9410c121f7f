import Showcase.Proofs.Source.LineByLine
import Showcase.Proofs.Source.Partition

/-!
# Tagged sources in order

Scanning goes down the lines of a text, so what it yields comes in the order of lines, and on
lines that there are. Because the tags are in order, one can be looked up by its line with
few looks. A line stops at the first literal that is left open, so it has at most one of
them. `TaggedSource.WellFormed` puts together what holds of every source that was parsed.
-/

namespace Showcase

/-- The order of tags and warnings, what they are like, and what is answered about a line. -/
structure TaggedSource.WellFormed (source : TaggedSource) : Prop where
  tags_inOrder : source.tags.Pairwise fun a b => a.line ≤ b.line
  warnings_inOrder : source.warnings.Pairwise fun a b => a.line ≤ b.line
  tag_line : ∀ tag ∈ source.tags, 1 ≤ tag.line ∧ tag.line ≤ source.lineCount
  warning_line : ∀ w ∈ source.warnings, 1 ≤ w.line ∧ w.line ≤ source.lineCount
  tag_text : ∀ tag ∈ source.tags,
    Text.isBlankText tag.text.toList = false ∧ '\n' ∉ tag.text.toList
  count_unterminated : ∀ line, source.warnings.count (.unterminatedTag line) ≤ 1
  isTagged_iff : ∀ line, source.isTagged line = true ↔ ∃ tag ∈ source.tags, tag.line = line
  isSome_line? : ∀ line, source.isTagged line = true → (source.line? line).isSome

namespace Marker

/-! ## The findings of a line -/

/-- The text of a tag is made of characters of its line. -/
theorem subset_of_tag_mem_scanFrom {m : Marker} {before : Option Char} {cs text : List Char}
    (h : .tag text ∈ m.scanFrom before cs) : text ⊆ cs := by
  fun_induction m.scanFrom before cs with
  | case1 => cases h
  | case2 before cs rest h_next text' rest' h_tag ih =>
      obtain ⟨read, h_holds, rfl⟩ := scanArguments_eq_tag_iff.1 h_tag
      have h_behind : read ++ rest' ⊆ cs := (suffix_behind_nextCall? h_next).subset
      refine List.Subset.trans ?_ h_behind
      rcases List.mem_cons.1 h with h_eq | h
      · obtain rfl := Finding.tag.inj h_eq
        exact List.subset_append_of_subset_left rest' h_holds.subset
      · exact List.subset_append_of_subset_right read (ih h)
  | case3 before cs rest h_next _ ih =>
      exact List.Subset.trans (ih h) (suffix_behind_nextCall? h_next).subset
  | case4 => cases List.mem_singleton.1 h

/-- Nothing is looked for behind a literal that is left open. -/
theorem count_unterminated_scanFrom_le (m : Marker) (before : Option Char) (cs : List Char) :
    (m.scanFrom before cs).count .unterminated ≤ 1 := by
  fun_induction m.scanFrom before cs with
  | case1 => exact Nat.zero_le 1
  | case2 before cs rest h_next text rest' h_tag ih =>
      rwa [List.count_cons_of_ne Finding.noConfusion]
  | case3 before cs rest h_next h_untagged ih => exact ih
  | case4 => exact Nat.le_refl 1

theorem Finding.eq_unterminated_of_warning? {f : Finding} {line : Nat}
    (h : f.warning? line = some (.unterminatedTag line)) : f = .unterminated := by
  cases f with
  | unterminated => rfl
  | tag text =>
      rw [warning?] at h
      split at h
      · cases h
      · cases h

theorem pairwise_scanLines (m : Marker) (first : Nat) (ls : List (List Char)) :
    (m.scanLines first ls).Pairwise fun f g => f.1 ≤ g.1 := by
  induction ls generalizing first with
  | nil => exact .nil
  | cons l ls ih =>
      rw [scanLines, List.pairwise_append]
      refine ⟨?_, ih (first + 1), ?_⟩
      · rw [List.pairwise_map]
        exact List.pairwise_of_forall fun _ _ => Nat.le_refl first
      · intro f hf g hg
        obtain ⟨found, -, rfl⟩ := List.mem_map.1 hf
        obtain ⟨i, -, -, hline, -⟩ := mem_scanLines.1 hg
        rw [hline, Nat.add_assoc]
        exact Nat.le_add_right first (1 + i)

end Marker

namespace TaggedSource

variable {m : Marker} {text : String}

theorem pairwise_filterMap_scanLines {α : Type} (yield : Nat → Marker.Finding → Option α)
    {lineOf : α → Nat} (h : ∀ line f a, yield line f = some a → lineOf a = line) (m : Marker)
    (first : Nat) (ls : List (List Char)) :
    ((m.scanLines first ls).filterMap fun (line, f) => yield line f).Pairwise
      fun a b => lineOf a ≤ lineOf b := by
  refine List.Pairwise.filterMap _ ?_ (m.pairwise_scanLines first ls)
  intro f g hfg a ha b hb
  rw [h _ _ a ha, h _ _ b hb]
  exact hfg

theorem not_blank_of_mem_tags_parse {tag : Tag} (h : tag ∈ (parse m text).tags) :
    Text.isBlankText tag.text.toList = false ∧ '\n' ∉ tag.text.toList := by
  obtain ⟨⟨line, f⟩, hf, h_tag⟩ := List.mem_filterMap.1 h
  obtain ⟨i, l, hl, -, h_found⟩ := Marker.mem_scanLines.1 hf
  cases f with
  | unterminated => cases h_tag
  | tag cs =>
      simp only [Marker.Finding.tag?, Option.ite_none_left_eq_some, Bool.not_eq_true] at h_tag
      obtain ⟨h_blank, h_eq⟩ := h_tag
      obtain rfl := Option.some.inj h_eq
      rw [String.toList_ofList]
      refine ⟨h_blank, fun h_mem => ?_⟩
      exact Text.lineFeed_not_mem_of_mem_lines (List.mem_of_getElem? hl)
        (Marker.subset_of_tag_mem_scanFrom h_found h_mem)

theorem count_unterminatedTag_parse_le (m : Marker) (text : String) (line : Nat) :
    (parse m text).warnings.count (.unterminatedTag line) ≤ 1 := by
  have h_line : (parse m text).warnings.filter (fun w => w.line = line) =
      ((parse m text).line? line).elim [] fun l =>
        (m.scanLine l.toList).filterMap (Marker.Finding.warning? line) :=
    filter_filterMap_scanLines Marker.Finding.warning?
      (fun _ _ _ => Marker.Finding.line_of_warning?) m text line
  have h_count : ((parse m text).warnings.filter fun w => w.line = line).count
      (.unterminatedTag line) = (parse m text).warnings.count (.unterminatedTag line) :=
    List.count_filter (decide_eq_true rfl)
  rw [← h_count, h_line]
  cases (parse m text).line? line with
  | none => exact Nat.zero_le 1
  | some l =>
      rw [Option.elim_some, List.count_filterMap]
      calc (m.scanLine l.toList).countP
            (fun f => f.warning? line == some (.unterminatedTag line))
          ≤ (m.scanLine l.toList).count .unterminated := by
            refine List.countP_mono_left fun f _ hf => ?_
            rw [beq_iff_eq, Marker.Finding.eq_unterminated_of_warning? (beq_iff_eq.1 hf)]
        _ ≤ 1 := m.count_unterminated_scanFrom_le none l.toList

/-! ## Asking for a line -/

theorem isSome_line?_iff (source : TaggedSource) (line : Nat) :
    (source.line? line).isSome ↔ 1 ≤ line ∧ line ≤ source.lineCount := by
  cases line with
  | zero => exact iff_of_false Bool.false_ne_true fun h => Nat.not_succ_le_zero 0 h.1
  | succ n =>
      rw [line?, Option.isSome_map, ← Option.ne_none_iff_isSome, Ne,
        List.getElem?_eq_none_iff, Nat.not_le, lineCount, Nat.lt_iff_add_one_le,
        and_iff_right (Nat.le_add_left 1 n)]

theorem isTagged_iff_of_pairwise {source : TaggedSource}
    (h : source.tags.Pairwise fun a b => a.line ≤ b.line) (line : Nat) :
    source.isTagged line = true ↔ ∃ tag ∈ source.tags, tag.line = line := by
  have h_look := exists_getElem?_partitionPoint_iff (a := source.tags.toArray) h line
  simp only [List.mem_toArray] at h_look
  rw [isTagged, ← h_look]
  cases source.tags.toArray[partitionPoint source.tags.toArray fun tag => tag.line < line]? with
  | none => simp
  | some tag => simp

/-- What is parsed is in order, its tags are neither blank nor longer than a line, and a line is
found to be tagged exactly if it is the line of a tag. -/
theorem wellFormed_parse (m : Marker) (text : String) : (parse m text).WellFormed := by
  have h_tags : (parse m text).tags.Pairwise fun a b => a.line ≤ b.line :=
    pairwise_filterMap_scanLines Marker.Finding.tag?
      (fun _ _ _ => Marker.Finding.line_of_tag?) m 1 _
  have h_tagged := isTagged_iff_of_pairwise h_tags
  refine ⟨h_tags, ?_, fun _ => line_of_mem_tags_parse, fun _ => line_of_mem_warnings_parse,
    fun _ => not_blank_of_mem_tags_parse, count_unterminatedTag_parse_le m text, h_tagged, ?_⟩
  · exact pairwise_filterMap_scanLines Marker.Finding.warning?
      (fun _ _ _ => Marker.Finding.line_of_warning?) m 1 _
  · intro line h
    obtain ⟨tag, h_tag, rfl⟩ := (h_tagged line).1 h
    rw [isSome_line?_iff]
    exact line_of_mem_tags_parse h_tag

end TaggedSource

end Showcase
