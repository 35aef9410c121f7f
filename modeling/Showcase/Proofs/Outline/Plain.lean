import Showcase.Proofs.Outline.Prefixes

/-!
# Building without open sections

`Sections.plainOfTags` builds the sections of some tags and remembers nothing between two
tags, or between two prefixes of one. It looks every prefix of an address up by its path,
from the shortest on: a known prefix is left as it is, an unknown one gets a node in the
section of the prefix before it, and a known address gets a repeat. On the sections of a
catalogue this is what `Catalogue.note` does to the catalogue, so the outline that comes of
it is the one built with open sections.
-/

namespace Showcase

namespace Sections

/-- The section with an address, by its path. There is none at the root. -/
def sectionAt? (s : Sections) (d : Char) (a : Address) : Option NodeId :=
  if a.isEmpty then none else s.find? (pathOf d a)

/-- Gets to the prefix `a` of the address `target` of a tag. -/
def enterPrefix (d : Char) (line : Nat) (target : Address) (s : Sections) (a : Address) :
    Sections :=
  match s.sectionAt? d a with
  | some id => if a = target then s.addRepeat id line else s
  | none =>
    let origin := if a = target then NodeOrigin.tagged else .synthetic
    let title := String.ofList (a.getLastD [])
    (s.addSection (s.sectionAt? d a.dropLast) title (pathOf d a) line origin).1

/-- Gets to the prefixes of the address of a tag, the shortest first. -/
def enterTag (d : Char) (s : Sections) (tag : Tag) : Sections :=
  let target := Text.segments d tag.text.toList
  if target.isEmpty then { s with warnings := s.warnings ++ [.emptyTag tag.line] }
  else (prefixes target).foldl (enterPrefix d tag.line target) s

/-- The sections of some tags, built without open sections. -/
def plainOfTags (tags : List Tag) (d : Char) : Sections :=
  tags.foldl (enterTag d) {}

end Sections

namespace Catalogue

variable {d : Char} {l : Catalogue} {a : Address}

theorem sectionAt?_sections (warnings : List Warning) (hc : Grown d l)
    (ha : ∀ segment ∈ a, Text.IsSegment d segment) :
    (sections d l warnings).sectionAt? d a = position? l a := by
  unfold Sections.sectionAt?
  split
  · rename_i hnil
    rw [List.isEmpty_iff.1 hnil, hc.position?_nil]
  · exact find?_sections hc ha

/-- A new address whose section lies in a known one can come next. -/
theorem admits_of_unknown {line : Nat} {origin : NodeOrigin} (ha : a ≠ [])
    (hseg : ∀ segment ∈ a, Text.IsSegment d segment)
    (habove : a.dropLast = [] ∨ (position? l a.dropLast).isSome) (ho : origin ≠ .duplicate)
    (hp : position? l a = none) : Admits d l ⟨line, a, origin⟩ where
  ne_nil := ha
  isSegment := hseg
  above_known := by
    rw [Entry.above_of_ne_duplicate ho]
    exact habove
  duplicate_iff := by simp [ho, hp]

theorem enterPrefix_sections (line : Nat) (target : Address) (warnings : List Warning)
    (hc : Grown d l) (ha : a ≠ []) (hseg : ∀ segment ∈ a, Text.IsSegment d segment)
    (habove : a.dropLast = [] ∨ (position? l a.dropLast).isSome) :
    (sections d l warnings).enterPrefix d line target a =
        sections d (note line target l a)
          (warnings ++ if a = target then repeatWarnings d l line a else []) ∧
      Grown d (note line target l a) ∧ (position? (note line target l a) a).isSome := by
  have hseg' : ∀ segment ∈ a.dropLast, Text.IsSegment d segment :=
    fun segment hs => hseg segment (List.mem_of_mem_dropLast hs)
  unfold Sections.enterPrefix note
  rw [sectionAt?_sections warnings hc hseg, sectionAt?_sections warnings hc hseg']
  cases hp : position? l a with
  | some id =>
      simp only [Option.isSome_some, if_true]
      split
      · have hadm := hc.admits_repeat line hp
        refine ⟨addRepeat_sections warnings hc hadm rfl hp, hc.concat hadm, ?_⟩
        rw [position?_append_of_some hp]
        rfl
      · rw [List.append_nil]
        exact ⟨rfl, hc, by rw [hp]; rfl⟩
  | none =>
      obtain ⟨origin, h_origin⟩ : ∃ origin,
          origin = if a = target then NodeOrigin.tagged else .synthetic := ⟨_, rfl⟩
      have ho : origin ≠ .duplicate := by
        rw [h_origin]
        split
        · exact NodeOrigin.noConfusion
        · exact NodeOrigin.noConfusion
      have hadm : Admits d l ⟨line, a, origin⟩ := admits_of_unknown ha hseg habove ho hp
      have hadd := addSection_sections warnings hc hadm ho
      rw [Entry.above_of_ne_duplicate ho, Entry.title, ← List.getLastD_eq_getLast?] at hadd
      simp only [Option.isSome_none, Bool.false_eq_true, if_false, ← h_origin,
        repeatWarnings_of_unknown hp, ite_self, List.append_nil]
      refine ⟨congrArg Prod.fst hadd, hc.concat hadm, ?_⟩
      rw [position?_concat, hp, if_pos rfl]
      rfl

theorem repeatWarnings_note (line : Nat) (target : Address) (l : Catalogue) {b : Address}
    (h : a ≠ b) :
    repeatWarnings d (note line target l a) line b = repeatWarnings d l line b := by
  unfold repeatWarnings
  rw [first?_note, if_neg h, Option.or_none]

/-- Getting to the prefixes beyond `above` adds to the sections of a catalogue what going down
from `above` adds to the catalogue. -/
theorem foldl_enterPrefix_sections (line : Nat) (warnings : List Warning) (hc : Grown d l)
    {above : Address} (habove : above = [] ∨ (position? l above).isSome)
    {rest : List (List Char)} (hseg : ∀ segment ∈ above ++ rest, Text.IsSegment d segment)
    (hne : rest ≠ []) :
    ((prefixes rest).map (above ++ ·)).foldl
        (Sections.enterPrefix d line (above ++ rest)) (sections d l warnings) =
      sections d (descend line l above rest)
        (warnings ++ repeatWarnings d l line (above ++ rest)) := by
  induction rest generalizing l above with
  | nil => exact absurd rfl hne
  | cons segment rest ih =>
      obtain ⟨target, h_target⟩ : ∃ target, target = above ++ segment :: rest := ⟨_, rfl⟩
      have h_split : target = above ++ [segment] ++ rest := by simp [h_target]
      have h_here : ∀ s ∈ above ++ [segment], Text.IsSegment d s := by
        intro s hs
        rw [← h_target, h_split] at hseg
        exact hseg s (List.mem_append_left rest hs)
      obtain ⟨h_enter, h_grown, h_known⟩ := enterPrefix_sections line target warnings hc
        (by simp) h_here (by rwa [List.dropLast_concat])
      rw [map_append_prefixes_cons, List.foldl_cons, descend_cons, ← h_target, h_enter]
      by_cases hnil : rest = []
      · subst hnil
        rw [h_split, List.append_nil, if_pos rfl]
        rfl
      · have h_further : above ++ [segment] ≠ target := by
          rw [h_split]
          simpa using hnil
        rw [if_neg h_further, List.append_nil, ← repeatWarnings_note line target l h_further,
          h_split]
        rw [h_split] at h_grown h_known
        exact ih h_grown (.inr h_known) (by rwa [← h_split, h_target]) hnil

theorem enterTag_sections (warnings : List Warning) (hc : Grown d l) (tag : Tag) :
    (sections d l warnings).enterTag d tag =
      sections d (add d l tag) (warnings ++ tagWarnings d l tag) := by
  have hseg : ∀ segment ∈ addressOf d tag, Text.IsSegment d segment :=
    fun segment hs => isSegment_of_mem_addressOf hs
  unfold Sections.enterTag tagWarnings
  rw [← addressOf]
  simp only
  split
  · rename_i hnil
    rw [add_of_address_eq_nil (List.isEmpty_iff.1 hnil)]
    rfl
  · rename_i hnil
    have hne : addressOf d tag ≠ [] := mt List.isEmpty_iff.2 hnil
    have h_fold := foldl_enterPrefix_sections tag.line warnings hc (.inl rfl) hseg hne
    rwa [List.map_congr_left (fun b _ => List.nil_append b), List.map_id'] at h_fold

theorem foldl_enterTag_sections (warnings : List Warning) (hc : Grown d l) (tags : List Tag) :
    tags.foldl (Sections.enterTag d) (sections d l warnings) =
      sections d (tags.foldl (add d) l) (warnings ++ warningsFrom d l tags) := by
  induction tags generalizing l warnings with
  | nil => simp [warningsFrom]
  | cons tag tags ih =>
      obtain ⟨-, -, -, h_grown, -⟩ := addTag_sections warnings hc (opens_nil l []) tag
      rw [List.foldl_cons, enterTag_sections warnings hc tag, ih _ h_grown, List.foldl_cons,
        warningsFrom, List.append_assoc]

end Catalogue

/-- The outline built with open sections is the one built without: the same nodes at the same
positions, the same roots, paths and warnings, and the same order by line. -/
theorem Outline.ofTags_eq_index_plainOfTags (tags : List Tag) (d : Char) :
    Outline.ofTags tags d = (Sections.plainOfTags tags d).index := by
  have h_plain : Sections.plainOfTags tags d =
      Catalogue.sections d (Catalogue.ofTags d tags) (Catalogue.warningsFrom d [] tags) :=
    Catalogue.foldl_enterTag_sections [] .nil tags
  rw [h_plain, ← Sections.ofTags_eq_sections]
  rfl

end Showcase
