import Showcase.Proofs.Outline.Occurrence

/-!
# The way down to a tag

A synthetic section is made on the way down to a tag, and what is made next is one segment
longer and lies in it. `Catalogue.way` lists what is made on such a way, and it is all that a
tag adds unless its address is known: prefixes of a known address are known, so behind the first
new prefix all are new. Hence every synthetic entry of a catalogue is followed by one on the
same line that lies in it.
-/

namespace Showcase

namespace Catalogue

variable {d : Char} {l : Catalogue} {line : Nat} {above : Address}

/-- The entries for the addresses on the way from `above` down through the segments. -/
def way (line : Nat) : Address → List (List Char) → List Entry
  | _, [] => []
  | above, segment :: rest =>
    ⟨line, above ++ [segment], if rest.isEmpty then .tagged else .synthetic⟩ ::
      way line (above ++ [segment]) rest

/-- Behind a synthetic entry on a way comes the next one, which lies in it. -/
theorem exists_next_of_mem_way {rest : List (List Char)} {i : Nat} {e : Entry}
    (he : (way line above rest)[i]? = some e) (ho : e.origin = .synthetic) :
    ∃ f, (way line above rest)[i + 1]? = some f ∧ f.line = e.line ∧ f.above = e.address := by
  induction rest generalizing above i with
  | nil => cases he
  | cons segment rest ih =>
      cases i with
      | succ i => exact ih he
      | zero =>
          obtain rfl := Option.some.inj he
          cases rest with
          | nil => cases ho
          | cons next rest =>
              refine ⟨_, rfl, rfl, ?_⟩
              rw [Entry.above_of_ne_duplicate]
              · exact List.dropLast_concat
              · dsimp only
                split
                · exact NodeOrigin.noConfusion
                · exact NodeOrigin.noConfusion

/-- Where all addresses are new, going down adds the entries of the way. -/
theorem descend_of_unknown {rest : List (List Char)}
    (h : ∀ a ≠ [], a <+: rest → position? l (above ++ a) = none) :
    descend line l above rest = l ++ way line above rest := by
  induction rest generalizing l above with
  | nil => rw [descend_nil, way, List.append_nil]
  | cons segment rest ih =>
      have h_here : position? l (above ++ [segment]) = none :=
        h [segment] (List.cons_ne_nil _ _) (List.prefix_append [segment] rest)
      rw [descend_cons_unknown h_here, ih, way, List.append_assoc]
      · rfl
      · intro a hne hpre
        have h_next : position? l (above ++ segment :: a) = none :=
          h (segment :: a) (List.cons_ne_nil _ _) (List.cons_prefix_cons.2 ⟨rfl, hpre⟩)
        rw [List.append_assoc, List.singleton_append, position?_concat, h_next]
        simp [hne]

/-- Going down adds a repeat or, behind the prefixes that are known, a way. -/
theorem exists_descend_eq_append_way (line : Nat) (above : Address) {rest : List (List Char)}
    (hne : rest ≠ [])
    (h : ∀ a b, a ≠ [] → position? l a = none → position? l (a ++ b) = none) :
    ∃ more : List Entry, descend line l above rest = l ++ more ∧
      (more = [⟨line, above ++ rest, .duplicate⟩] ∨ ∃ a b, more = way line a b) := by
  induction rest generalizing above with
  | nil => exact absurd rfl hne
  | cons segment rest ih =>
      cases hp : position? l (above ++ [segment]) with
      | some id =>
          rw [descend_cons_known (by simp [hp])]
          by_cases hnil : rest = []
          · subst hnil
            exact ⟨_, rfl, .inl rfl⟩
          · obtain ⟨more, h_eq, h_more⟩ := ih (above ++ [segment]) hnil
            rw [if_neg (by simpa using hnil)]
            refine ⟨more, h_eq, ?_⟩
            rwa [List.append_assoc, List.singleton_append] at h_more
      | none =>
          refine ⟨_, descend_of_unknown ?_, .inr ⟨above, segment :: rest, rfl⟩⟩
          intro a h_a hpre
          obtain ⟨b, rfl⟩ : ∃ b, a = segment :: b := by
            cases a with
            | nil => exact absurd rfl h_a
            | cons segment' b =>
                obtain ⟨rfl, -⟩ := List.cons_prefix_cons.1 hpre
                exact ⟨b, rfl⟩
          have h_longer := h (above ++ [segment]) b (by simp) hp
          rwa [List.append_assoc, List.singleton_append] at h_longer

/-- An address is unknown as long as a prefix of it is. -/
theorem position?_ofTags_append_eq_none (tags : List Tag) (a b : Address) (ha : a ≠ [])
    (h : position? (ofTags d tags) a = none) : position? (ofTags d tags) (a ++ b) = none := by
  rw [← Option.not_isSome_iff_eq_none, isSome_position?_ofTags] at h ⊢
  intro h_known
  obtain ⟨-, tag, htag, hpre⟩ := h_known
  exact h ⟨ha, tag, htag, (List.prefix_append a b).trans hpre⟩

/-- Right behind a synthetic entry comes one on the same line that lies in it. -/
theorem exists_next_of_synthetic {tags : List Tag} {i : Nat} {e : Entry}
    (he : (ofTags d tags)[i]? = some e) (ho : e.origin = .synthetic) :
    ∃ f, (ofTags d tags)[i + 1]? = some f ∧ f.line = e.line ∧ f.above = e.address := by
  induction tags using List.reverseRecOn with
  | nil => cases he
  | append_singleton tags tag ih =>
      rw [ofTags_concat] at he ⊢
      by_cases hnil : addressOf d tag = []
      · rw [add_of_address_eq_nil hnil] at he ⊢
        exact ih he
      · obtain ⟨more, h_eq, h_more⟩ := exists_descend_eq_append_way tag.line [] hnil
          (position?_ofTags_append_eq_none (d := d) tags)
        rw [add, h_eq] at he ⊢
        rcases Nat.lt_or_ge i (ofTags d tags).length with hi | hi
        · -- the entry was there before the tag, and so was the next one
          rw [List.getElem?_append_left hi] at he
          obtain ⟨f, hf, h_next⟩ := ih he
          have hlt : i + 1 < (ofTags d tags).length := (List.getElem?_eq_some_iff.1 hf).1
          exact ⟨f, by rw [List.getElem?_append_left hlt, hf], h_next⟩
        · -- the tag added it, so it is on a way
          rw [List.getElem?_append_right hi] at he
          rw [List.getElem?_append_right (Nat.le_succ_of_le hi), Nat.succ_sub hi]
          rcases h_more with rfl | ⟨a, b, rfl⟩
          · rw [List.mem_singleton.1 (List.mem_of_getElem? he)] at ho
            cases ho
          · exact exists_next_of_mem_way he ho

end Catalogue

end Showcase
