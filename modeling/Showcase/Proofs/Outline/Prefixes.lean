import Showcase.Proofs.Outline.TagNodes

/-!
# The prefixes of an address

A tag adds to a catalogue what the prefixes of its address add one after the other, the
shortest first. `note` says what one of them adds: an entry if it is new, and if it is
known, a repeat provided it is the whole address. So the first entry with an address is due
to the first tag that has this address as a prefix, and it is tagged exactly if this is the
whole address of that tag.
-/

namespace Showcase

/-- The joined form of an address, which its section is known by. -/
abbrev pathOf (d : Char) (a : Address) : String :=
  String.ofList (Text.joinWith d a)

/-- The prefixes of an address that have a segment, the shortest first. -/
def prefixes (a : Address) : List Address :=
  a.inits.tail

@[simp] theorem prefixes_nil : prefixes [] = [] := rfl

theorem prefixes_cons (segment : List Char) (a : Address) :
    prefixes (segment :: a) = [segment] :: (prefixes a).map (segment :: ·) := by
  cases a with
  | nil => rfl
  | cons next a => simp [prefixes]

/-- The prefixes beyond an address, the first of them one segment longer. -/
theorem map_append_prefixes_cons (above : Address) (segment : List Char) (a : Address) :
    (prefixes (segment :: a)).map (above ++ ·) =
      (above ++ [segment]) :: (prefixes a).map (above ++ [segment] ++ ·) := by
  rw [prefixes_cons, List.map_cons, List.map_map]
  congr 1
  apply List.map_congr_left
  intro b _
  simp

theorem mem_prefixes {a b : Address} : b ∈ prefixes a ↔ b ≠ [] ∧ b <+: a := by
  induction a generalizing b with
  | nil => simp
  | cons segment a ih =>
      rw [prefixes_cons, List.mem_cons, List.mem_map]
      constructor
      · rintro (rfl | ⟨c, hc, rfl⟩)
        · exact ⟨by simp, by simp⟩
        · exact ⟨by simp, List.cons_prefix_cons.2 ⟨rfl, (ih.1 hc).2⟩⟩
      · rintro ⟨hne, hpre⟩
        cases b with
        | nil => exact absurd rfl hne
        | cons segment' b =>
            obtain ⟨rfl, hrest⟩ := List.cons_prefix_cons.1 hpre
            by_cases hnil : b = []
            · exact .inl (by rw [hnil])
            · exact .inr ⟨b, ih.2 ⟨hnil, hrest⟩, rfl⟩

namespace Catalogue

variable {a : Address}

/-- What a catalogue becomes when a tag with the address `target` gets to its prefix `a`. -/
def note (line : Nat) (target : Address) (l : Catalogue) (a : Address) : Catalogue :=
  if (position? l a).isSome then
    if a = target then l ++ [⟨line, a, .duplicate⟩] else l
  else l ++ [⟨line, a, if a = target then .tagged else .synthetic⟩]

/-- Going down from an address gets to the next prefix first. -/
theorem descend_cons (line : Nat) (l : Catalogue) (above : Address) (segment : List Char)
    (rest : List (List Char)) :
    descend line l above (segment :: rest) =
      descend line (note line (above ++ segment :: rest) l (above ++ [segment]))
        (above ++ [segment]) rest := by
  have h_whole : above ++ [segment] = above ++ segment :: rest ↔ rest.isEmpty := by
    rw [List.append_right_inj, List.cons_inj_right, eq_comm, List.isEmpty_iff]
  simp only [note, h_whole]
  cases hp : position? l (above ++ [segment]) with
  | some id => rw [descend_cons_known (by simp [hp]), Option.isSome_some, if_pos rfl]
  | none =>
      rw [descend_cons_unknown hp]
      rfl

theorem descend_eq_foldl_note (line : Nat) (l : Catalogue) (above : Address)
    (rest : List (List Char)) :
    descend line l above rest =
      ((prefixes rest).map (above ++ ·)).foldl (note line (above ++ rest)) l := by
  induction rest generalizing l above with
  | nil => rfl
  | cons segment rest ih =>
      rw [map_append_prefixes_cons, List.foldl_cons, descend_cons, ih, List.append_assoc]
      rfl

theorem add_eq_foldl_note (d : Char) (l : Catalogue) (tag : Tag) :
    add d l tag =
      (prefixes (addressOf d tag)).foldl (note tag.line (addressOf d tag)) l := by
  rw [add, descend_eq_foldl_note]
  simp

/-! ## The first entry with an address -/

theorem first?_concat (l : Catalogue) (e : Entry) (a : Address) :
    first? (l ++ [e]) a = (first? l a).or (if e.address = a then some e else none) := by
  unfold first?
  rw [List.find?_append]
  by_cases h : e.address = a
  · simp [h]
  · simp [h]

theorem isSome_first? (l : Catalogue) (a : Address) :
    (first? l a).isSome = (position? l a).isSome := by
  rw [Bool.eq_iff_iff, isSome_position?_iff]
  simp [first?]

theorem first?_note (line : Nat) (target : Address) (l : Catalogue) (a b : Address) :
    first? (note line target l a) b =
      (first? l b).or (if a = b then some ⟨line, b, if b = target then .tagged else .synthetic⟩
        else none) := by
  by_cases hab : a = b
  · subst hab
    rw [note, ← isSome_first?]
    cases hf : first? l a with
    | some e =>
        rw [Option.isSome_some, if_pos rfl]
        split
        · rw [first?_concat, hf]
          rfl
        · exact hf
    | none =>
        rw [Option.isSome_none, if_neg Bool.false_ne_true, first?_concat, hf]
  · rw [note, if_neg hab, Option.or_none]
    split
    · split
      · rw [first?_concat, if_neg hab, Option.or_none]
      · rfl
    · rw [first?_concat, if_neg hab, Option.or_none]

theorem first?_foldl_note (line : Nat) (target : Address) (l : Catalogue) (as : List Address)
    (b : Address) :
    first? (as.foldl (note line target) l) b =
      (first? l b).or (if b ∈ as then some ⟨line, b, if b = target then .tagged else .synthetic⟩
        else none) := by
  induction as generalizing l with
  | nil => simp
  | cons a as ih =>
      rw [List.foldl_cons, ih, first?_note, Option.or_assoc]
      congr 1
      by_cases hab : a = b
      · simp [hab]
      · simp [hab, Ne.symm hab]

theorem first?_add (d : Char) (l : Catalogue) (tag : Tag) (ha : a ≠ []) :
    first? (add d l tag) a =
      (first? l a).or (if a <+: addressOf d tag then
        some ⟨tag.line, a, if a = addressOf d tag then .tagged else .synthetic⟩ else none) := by
  rw [add_eq_foldl_note, first?_foldl_note]
  simp only [mem_prefixes, ne_eq, ha, not_false_eq_true, true_and]

/-- The first entry with an address is due to the first tag that has it as a prefix. -/
theorem first?_ofTags (d : Char) (tags : List Tag) (ha : a ≠ []) :
    first? (ofTags d tags) a =
      (tags.find? fun tag => a <+: addressOf d tag).map fun tag =>
        ⟨tag.line, a, if a = addressOf d tag then .tagged else .synthetic⟩ := by
  induction tags using List.reverseRecOn with
  | nil => rfl
  | append_singleton tags tag ih =>
      rw [ofTags_concat, first?_add d _ tag ha, ih, List.find?_append]
      cases hfind : tags.find? fun tag => a <+: addressOf d tag with
      | some other => rfl
      | none =>
          by_cases hpre : a <+: addressOf d tag
          · simp [hpre]
          · simp [hpre]

end Catalogue

end Showcase
