import Showcase.Proofs.Outline.Way

/-!
# The innermost section of a line

The section that encloses a line is the last, by line, depth and position, of those that do
not start after it. A synthetic section is never it: such a section is only made on the way to
the node of a tag, which comes later in the catalogue, stands on the same line and lies no
less deep. This needs no order among the tags.
-/

namespace Showcase

namespace Catalogue

variable {d : Char}

/-- Behind every synthetic entry comes another one on the same line that lies no less deep. -/
theorem exists_behind_of_synthetic {tags : List Tag} {i : Nat} {e : Entry}
    (he : (ofTags d tags)[i]? = some e) (ho : e.origin = .synthetic) :
    ∃ j f, i < j ∧ (ofTags d tags)[j]? = some f ∧ f.line = e.line ∧
      e.above.length ≤ f.above.length := by
  obtain ⟨f, hf, hline, h_above⟩ := exists_next_of_synthetic he ho
  have h_not : e.origin ≠ .duplicate := by
    rw [ho]
    exact NodeOrigin.noConfusion
  refine ⟨i + 1, f, Nat.lt_succ_self i, hf, hline, ?_⟩
  rw [h_above, Entry.above_of_ne_duplicate h_not, List.length_dropLast]
  exact Nat.sub_le _ _

/-- What encloses a line stands for a tag, because an entry that is followed on its line by one
no less deep is not the last there. -/
theorem exists_tagged_of_enclosing? {tags : List Tag} {warnings : List Warning} {line : Nat}
    {id : NodeId} (h : (sections d (ofTags d tags) warnings).index.enclosing? line = some id) :
    ∃ n, (sections d (ofTags d tags) warnings).get? id = some n ∧ n.origin ≠ .synthetic := by
  obtain ⟨⟨n, hn, hline⟩, h_max⟩ := Sections.enclosing?_eq_some_iff.1 h
  obtain ⟨e, he, rfl⟩ := exists_entry_of_get? hn
  refine ⟨_, hn, ?_⟩
  intro ho
  obtain ⟨j, f, hij, hf, hf_line, h_depth⟩ := exists_behind_of_synthetic he ho
  have h_get : (sections d (ofTags d tags) warnings).get? ⟨j⟩ =
      some (node d (ofTags d tags) j f) := get?_sections_of_getElem? hf
  have h_rank := h_max ⟨j⟩ ⟨_, h_get, hf_line.trans_le hline⟩
  rw [Sections.rank_of_get? h_get, Sections.rank_of_get? hn, ← not_lt] at h_rank
  apply h_rank
  rw [Prod.Lex.toLex_lt_toLex, Prod.Lex.toLex_lt_toLex]
  refine .inr ⟨hf_line.symm, ?_⟩
  rcases Nat.lt_or_eq_of_le h_depth with hlt | h_same
  · exact .inl hlt
  · exact .inr ⟨h_same, hij⟩

end Catalogue

/-- A line is enclosed by the last, by line, depth and position, of the nodes that do not start
after it, and by nothing if all of them do. What encloses a line stands for a tag. -/
theorem Outline.enclosing?_ofTags (tags : List Tag) (d : Char) (line : Nat) :
    let t := Outline.ofTags tags d
    (t.enclosing? line = none ↔ ∀ node ∈ t.nodes, line < node.line) ∧
      (∀ id, t.enclosing? line = some id ↔
        t.StartsBy line id ∧ ∀ other, t.StartsBy line other → t.rank other ≤ t.rank id) ∧
      ∀ id, t.enclosing? line = some id →
        ∃ node, t.get? id = some node ∧ node.origin ≠ .synthetic := by
  intro t
  refine ⟨?_, fun id => Sections.enclosing?_eq_some_iff, ?_⟩
  · have h_none : t.enclosing? line = none ↔ ∀ id, ¬ t.StartsBy line id :=
      Sections.enclosing?_eq_none_iff
    rw [h_none]
    constructor
    · intro h node h_node
      obtain ⟨i, hi, rfl⟩ := Array.mem_iff_getElem.1 h_node
      rw [← Nat.not_le]
      intro hline
      exact h ⟨i⟩ ⟨_, Array.getElem?_eq_getElem hi, hline⟩
    · intro h id ⟨node, h_node, hline⟩
      exact absurd hline (Nat.not_le.2 (h node (Array.mem_of_getElem? h_node)))
  · intro id h
    have h_eq : t = (Catalogue.sections d (Catalogue.ofTags d tags)
        (Catalogue.warningsFrom d [] tags)).index :=
      congrArg Sections.index (Sections.ofTags_eq_sections tags d)
    rw [h_eq] at h ⊢
    exact Catalogue.exists_tagged_of_enclosing? h

end Showcase
