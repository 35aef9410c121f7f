import Mathlib.Data.List.Infix
import Showcase.Proofs.Outline.Linking

/-!
# How tags grow an outline

`Catalogue.ofTags d tags` is the catalogue of a list of tags: for every tag with a segment,
the prefixes of its address that are not listed yet and then the address itself, as a repeat
if it is listed already. It keeps no open sections.

The sections of the tag before are kept open while an outline is built. `Opens l above opened
rest` says that `opened` are the positions of the addresses met on the way from `above` down
through `rest`; the address is carried along, so no index arithmetic is needed. As long as
the open sections are such a chain, going down from the ones that a tag shares does the same
as going down from the root. So `Sections.ofTags` gives the sections of the catalogue.
-/

namespace Showcase

namespace Catalogue

/-- What a catalogue becomes when a tag on `line` goes down from the address `above` through
the remaining segments. -/
def descend (line : Nat) : Catalogue → Address → List (List Char) → Catalogue
  | l, _, [] => l
  | l, above, segment :: rest =>
    let here := above ++ [segment]
    if (position? l here).isSome then
      descend line (if rest.isEmpty then l ++ [⟨line, here, .duplicate⟩] else l) here rest
    else
      descend line (l ++ [⟨line, here, if rest.isEmpty then .tagged else .synthetic⟩]) here rest

/-- The address of a tag. -/
def addressOf (d : Char) (tag : Tag) : Address :=
  Text.segments d tag.text.toList

/-- The catalogue with what a tag adds. -/
def add (d : Char) (l : Catalogue) (tag : Tag) : Catalogue :=
  descend tag.line l [] (addressOf d tag)

/-- The warning that a tag causes. -/
def tagWarnings (d : Char) (l : Catalogue) (tag : Tag) : List Warning :=
  if (addressOf d tag).isEmpty then [.emptyTag tag.line]
  else repeatWarnings d l tag.line (addressOf d tag)

/-- The catalogue of a list of tags. -/
def ofTags (d : Char) (tags : List Tag) : Catalogue :=
  tags.foldl (add d) []

/-- The warnings that tags cause when they are added to a catalogue. -/
def warningsFrom (d : Char) : Catalogue → List Tag → List Warning
  | _, [] => []
  | l, tag :: tags => tagWarnings d l tag ++ warningsFrom d (add d l tag) tags

/-- The positions of the addresses met on the way from `above` down through `rest`. -/
def Opens (l : Catalogue) : Address → List NodeId → List (List Char) → Prop
  | _, [], [] => True
  | above, id :: opened, segment :: rest =>
    position? l (above ++ [segment]) = some id ∧ Opens l (above ++ [segment]) opened rest
  | _, _, _ => False

variable {d : Char} {l : Catalogue} {line : Nat} {warnings : List Warning}

theorem isSegment_of_mem_addressOf {tag : Tag} {segment : List Char}
    (h : segment ∈ addressOf d tag) : Text.IsSegment d segment :=
  Text.isSegment_of_mem_segments h

/-! ## Chains of open sections -/

theorem opens_nil (l : Catalogue) (above : Address) : Opens l above [] [] := trivial

theorem opens_cons {above : Address} {id : NodeId} {opened : List NodeId} {segment : List Char}
    {rest : List (List Char)} :
    Opens l above (id :: opened) (segment :: rest) ↔
      position? l (above ++ [segment]) = some id ∧ Opens l (above ++ [segment]) opened rest :=
  Iff.rfl

theorem Opens.append {above : Address} {opened : List NodeId} {rest : List (List Char)}
    (h : Opens l above opened rest) (l' : Catalogue) : Opens (l ++ l') above opened rest := by
  induction opened generalizing above rest with
  | nil =>
      cases rest with
      | nil => trivial
      | cons segment rest => exact h.elim
  | cons id opened ih =>
      cases rest with
      | nil => exact h.elim
      | cons segment rest =>
          obtain ⟨hid, hrest⟩ := opens_cons.1 h
          exact opens_cons.2 ⟨position?_append_of_some hid l', ih hrest⟩

theorem Opens.concat {above : Address} {opened : List NodeId} {rest : List (List Char)}
    (h : Opens l above opened rest) {segment : List Char} {id : NodeId}
    (hid : position? l (above ++ rest ++ [segment]) = some id) :
    Opens l above (opened ++ [id]) (rest ++ [segment]) := by
  induction opened generalizing above rest with
  | nil =>
      cases rest with
      | nil => exact ⟨by simpa using hid, trivial⟩
      | cons segment' rest => exact h.elim
  | cons id' opened ih =>
      cases rest with
      | nil => exact h.elim
      | cons segment' rest =>
          obtain ⟨hid', hrest⟩ := opens_cons.1 h
          refine opens_cons.2 ⟨hid', ih hrest ?_⟩
          simpa using hid

theorem Opens.getLast? {above : Address} {opened : List NodeId} {rest : List (List Char)}
    (h : Opens l above opened rest) :
    opened.getLast? = if rest = [] then none else position? l (above ++ rest) := by
  induction opened generalizing above rest with
  | nil =>
      cases rest with
      | nil => rfl
      | cons segment rest => exact h.elim
  | cons id opened ih =>
      cases rest with
      | nil => exact h.elim
      | cons segment rest =>
          obtain ⟨hid, hrest⟩ := opens_cons.1 h
          rw [List.getLast?_cons, ih hrest]
          by_cases hnil : rest = []
          · subst hnil
            simp [hid]
          · have hlast : opened.getLast? ≠ none := by
              rw [Ne, List.getLast?_eq_none_iff]
              rintro rfl
              cases rest with
              | nil => exact hnil rfl
              | cons segment' rest => exact hrest.elim
            rw [ih hrest, if_neg hnil] at hlast
            obtain ⟨last, hlast⟩ := Option.ne_none_iff_exists'.1 hlast
            rw [List.append_assoc, List.singleton_append] at hlast
            simp [hnil, hlast]

theorem Opens.getLast?_root (hc : Grown d l) {opened : List NodeId} {a : Address}
    (h : Opens l [] opened a) : opened.getLast? = position? l a := by
  rw [h.getLast?]
  split
  · rename_i ha
    rw [ha, hc.position?_nil]
  · rfl

/-- The sections that a chain shares with another address are a chain down a prefix of
that address. -/
theorem Opens.shared (d : Char) (warnings : List Warning) {above : Address}
    {opened : List NodeId} {rest : List (List Char)}
    (h : Opens l above opened rest) (segments : List (List Char)) :
    let kept := (sections d l warnings).shared opened segments
    kept.length ≤ segments.length ∧ Opens l above kept (segments.take kept.length) := by
  induction opened generalizing above rest segments with
  | nil => simp [Sections.shared, opens_nil]
  | cons id opened ih =>
      cases rest with
      | nil => exact h.elim
      | cons segment rest =>
          obtain ⟨hid, hrest⟩ := opens_cons.1 h
          cases segments with
          | nil => simp [Sections.shared, opens_nil]
          | cons segment' segments =>
              obtain ⟨e, he, haddr⟩ := getElem?_of_position? hid
              have htitle : (node d l id.index e).title = String.ofList segment := by
                simp [node, Entry.title, haddr]
              unfold Sections.shared
              rw [List.zip_cons_cons, List.takeWhile_cons]
              simp only [get?_sections, he, Option.map_some, Option.any_some, htitle]
              by_cases hsame : segment = segment'
              · subst hsame
                have hrec := ih hrest segments
                simpa [opens_cons, hid, Sections.shared, get?_sections] using hrec
              · have hne : (String.ofList segment == String.ofList segment') = false := by
                  rw [beq_eq_false_iff_ne, Ne, String.ofList_inj]
                  exact hsame
                simp [hne, opens_nil]

/-! ## Going down in a catalogue -/

theorem descend_nil (line : Nat) (l : Catalogue) (above : Address) :
    descend line l above [] = l := rfl

theorem descend_cons_known {above : Address} {segment : List Char} {rest : List (List Char)}
    (h : (position? l (above ++ [segment])).isSome) :
    descend line l above (segment :: rest) =
      descend line
        (if rest.isEmpty then l ++ [⟨line, above ++ [segment], .duplicate⟩] else l)
        (above ++ [segment]) rest :=
  if_pos h

theorem descend_cons_unknown {above : Address} {segment : List Char} {rest : List (List Char)}
    (h : position? l (above ++ [segment]) = none) :
    descend line l above (segment :: rest) =
      descend line
        (l ++ [⟨line, above ++ [segment], if rest.isEmpty then .tagged else .synthetic⟩])
        (above ++ [segment]) rest :=
  if_neg (by simp [h])

/-- A tag whose whole address is open is a repeat. -/
theorem descend_of_opens {above : Address} {opened : List NodeId} {rest : List (List Char)}
    (h : Opens l above opened rest) (hne : rest ≠ []) :
    descend line l above rest = l ++ [⟨line, above ++ rest, .duplicate⟩] := by
  induction opened generalizing above rest with
  | nil =>
      cases rest with
      | nil => exact absurd rfl hne
      | cons segment rest => exact h.elim
  | cons id opened ih =>
      cases rest with
      | nil => exact h.elim
      | cons segment rest =>
          obtain ⟨hid, hrest⟩ := opens_cons.1 h
          rw [descend_cons_known (by simp [hid])]
          by_cases hnil : rest = []
          · subst hnil
            rfl
          · rw [if_neg (by simpa using hnil), ih hrest hnil]
            simp

/-- Going down through open sections changes nothing. -/
theorem descend_append_of_opens {above : Address} {opened : List NodeId}
    {rest more : List (List Char)} (h : Opens l above opened rest) (hne : more ≠ []) :
    descend line l above (rest ++ more) = descend line l (above ++ rest) more := by
  induction opened generalizing above rest with
  | nil =>
      cases rest with
      | nil => simp
      | cons segment rest => exact h.elim
  | cons id opened ih =>
      cases rest with
      | nil => exact h.elim
      | cons segment rest =>
          obtain ⟨hid, hrest⟩ := opens_cons.1 h
          rw [List.cons_append, descend_cons_known (by simp [hid]), if_neg (by simp [hne]),
            ih hrest]
          simp

theorem admits_section {above : Address} {opened : List NodeId}
    (h : Opens l [] opened above) {segment : List Char} {origin : NodeOrigin}
    (hseg : ∀ s ∈ above ++ [segment], Text.IsSegment d s) (ho : origin ≠ .duplicate)
    (hp : position? l (above ++ [segment]) = none) :
    Admits d l ⟨line, above ++ [segment], origin⟩ where
  ne_nil := by simp
  isSegment := hseg
  above_known := by
    rw [Entry.above_of_ne_duplicate ho, List.dropLast_concat]
    by_cases hnil : above = []
    · exact Or.inl hnil
    · right
      have hlast := h.getLast?
      rw [if_neg hnil, List.nil_append] at hlast
      rw [← hlast, List.getLast?_isSome]
      rintro rfl
      cases above with
      | nil => exact hnil rfl
      | cons s rest => exact h.elim
  duplicate_iff := by simp [ho, hp]

theorem Grown.admits_repeat (line : Nat) (hc : Grown d l) {a : Address} {id : NodeId}
    (hp : position? l a = some id) : Admits d l ⟨line, a, .duplicate⟩ where
  ne_nil := by
    rintro rfl
    rw [hc.position?_nil] at hp
    simp at hp
  isSegment := by
    obtain ⟨e, he, rfl⟩ := getElem?_of_position? hp
    intro segment hs
    exact hc.isSegment (List.mem_of_getElem? he) hs
  above_known := by
    rw [Entry.above_of_duplicate rfl, hp]
    exact Or.inr rfl
  duplicate_iff := by simp [hp]

theorem repeatWarnings_concat (l : Catalogue) {e : Entry} {a : Address} (h : e.address ≠ a) :
    repeatWarnings d (l ++ [e]) line a = repeatWarnings d l line a := by
  have hfirst : first? (l ++ [e]) a = first? l a := by
    unfold first?
    rw [List.find?_append]
    simp [h]
  unfold repeatWarnings
  rw [hfirst]

theorem repeatWarnings_of_unknown {a : Address} (h : position? l a = none) :
    repeatWarnings d l line a = [] := by
  unfold repeatWarnings
  rw [first?_eq_bind_position?, h]
  rfl

/-- A section for a new address at the end of a chain prolongs the chain. -/
theorem Opens.addSection (warnings : List Warning) (hc : Grown d l) {above : Address}
    {opened : List NodeId} (h : Opens l [] opened above) {segment : List Char}
    (hseg : ∀ s ∈ above ++ [segment], Text.IsSegment d s) (line : Nat) {origin : NodeOrigin}
    (ho : origin ≠ .duplicate) (hp : position? l (above ++ [segment]) = none) :
    let new := l ++ [⟨line, above ++ [segment], origin⟩]
    (sections d l warnings).addSection opened.getLast? (String.ofList segment)
        (String.ofList (Text.joinWith d (above ++ [segment]))) line origin =
        (sections d new warnings, ⟨l.length⟩) ∧
      Grown d new ∧ Opens new [] (opened ++ [⟨l.length⟩]) (above ++ [segment]) := by
  have hadm : Admits d l ⟨line, above ++ [segment], origin⟩ := admits_section h hseg ho hp
  have hadd := addSection_sections warnings hc hadm ho
  rw [Entry.above_of_ne_duplicate ho, List.dropLast_concat, ← h.getLast?_root hc, Entry.title,
    List.getLast?_concat] at hadd
  have hnew : position? (l ++ [⟨line, above ++ [segment], origin⟩]) (above ++ [segment]) =
      some ⟨l.length⟩ := by
    rw [position?_concat, hp, if_pos rfl]
    rfl
  exact ⟨hadd, hc.concat hadm, (h.append _).concat hnew⟩

/-- Going down from a chain of open sections adds to the sections of a catalogue what it
adds to the catalogue, and leaves a chain open down the whole address. -/
theorem descend_sections (line : Nat) (warnings : List Warning) (hc : Grown d l)
    {above : Address} {opened : List NodeId}
    (h : Opens l [] opened above) {rest : List (List Char)}
    (hseg : ∀ segment ∈ above ++ rest, Text.IsSegment d segment) (hne : rest ≠ []) :
    ∃ opened',
      Sections.descend d line (sections d l warnings) opened above rest =
        (sections d (descend line l above rest)
          (warnings ++ repeatWarnings d l line (above ++ rest)), opened') ∧
      Grown d (descend line l above rest) ∧
      Opens (descend line l above rest) [] opened' (above ++ rest) := by
  induction rest generalizing l above opened warnings with
  | nil => exact absurd rfl hne
  | cons segment rest ih =>
      have happ : above ++ segment :: rest = above ++ [segment] ++ rest := by simp
      rw [happ] at hseg ⊢
      have hhere : ∀ s ∈ above ++ [segment], Text.IsSegment d s :=
        fun s hs => hseg s (List.mem_append_left _ hs)
      unfold Sections.descend
      simp only [find?_sections hc hhere]
      cases hp : position? l (above ++ [segment]) with
      | some id =>
          rw [descend_cons_known (by simp [hp])]
          have hopens : Opens l [] (opened ++ [id]) (above ++ [segment]) :=
            h.concat (by simpa using hp)
          by_cases hnil : rest = []
          · subst hnil
            have hadm := hc.admits_repeat line hp
            have hrep := addRepeat_sections warnings hc hadm rfl hp
            simp only [List.isEmpty_nil, if_true, descend_nil, List.append_nil]
            exact ⟨opened ++ [id], by rw [hrep]; rfl, hc.concat hadm, hopens.append _⟩
          · simp only [List.isEmpty_iff, hnil, if_false]
            exact ih warnings hc hopens hseg hnil
      | none =>
          rw [descend_cons_unknown hp]
          have ho : (if rest.isEmpty then NodeOrigin.tagged else .synthetic) ≠ .duplicate := by
            split
            · exact NodeOrigin.noConfusion
            · exact NodeOrigin.noConfusion
          obtain ⟨hadd, hgrown, hopens⟩ := h.addSection warnings hc hhere line ho hp
          rw [hadd]
          by_cases hnil : rest = []
          · subst hnil
            simp only [List.append_nil, repeatWarnings_of_unknown hp]
            exact ⟨_, rfl, hgrown, hopens⟩
          · have hfurther : above ++ [segment] ≠ above ++ [segment] ++ rest := by
              simpa using hnil
            have hrec := ih warnings hgrown hopens hseg hnil
            rw [repeatWarnings_concat l hfurther] at hrec
            exact hrec

/-! ## Adding tags -/

/-- Adding a tag to the sections of a catalogue adds to the catalogue what the tag adds
there. The sections that are open stay a chain, whichever they were before. -/
theorem addTag_sections (warnings : List Warning) (hc : Grown d l) {opened : List NodeId}
    {a : Address}
    (h : Opens l [] opened a) (tag : Tag) :
    ∃ opened' a',
      Sections.addTag d (sections d l warnings, opened) tag =
        (sections d (add d l tag) (warnings ++ tagWarnings d l tag), opened') ∧
      Grown d (add d l tag) ∧ Opens (add d l tag) [] opened' a' := by
  have hseg : ∀ s ∈ addressOf d tag, Text.IsSegment d s := fun s => isSegment_of_mem_addressOf
  unfold Sections.addTag add tagWarnings
  simp only
  rw [← addressOf]
  generalize addressOf d tag = target at hseg
  by_cases hnil : target = []
  · subst hnil
    exact ⟨opened, a, rfl, hc, h⟩
  · obtain ⟨hle, hkept⟩ := h.shared d warnings target
    generalize (sections d l warnings).shared opened target = kept at hle hkept
    simp only [List.isEmpty_iff, hnil, if_false]
    by_cases hfull : kept.length = target.length
    · rw [hfull, List.take_length] at hkept
      obtain ⟨id, hlast⟩ : ∃ id, kept.getLast? = some id := by
        rw [← Option.isSome_iff_exists, List.getLast?_isSome]
        rintro rfl
        exact hnil (List.length_eq_zero_iff.1 hfull.symm)
      have hid : position? l target = some id := by rw [← hkept.getLast?_root hc, hlast]
      have hadm := hc.admits_repeat tag.line hid
      have hrep := addRepeat_sections warnings hc hadm rfl hid
      rw [if_pos hfull, descend_of_opens hkept hnil]
      simp only [hlast]
      exact ⟨kept, target, by rw [hrep]; rfl, hc.concat hadm, hkept.append _⟩
    · have hdrop : target.drop kept.length ≠ [] := by
        rw [Ne, List.drop_eq_nil_iff]
        omega
      have hsplit : target.take kept.length ++ target.drop kept.length = target :=
        List.take_append_drop _ _
      obtain ⟨opened', heq, hgrown, hopens⟩ :=
        descend_sections tag.line warnings hc hkept
          (by rwa [hsplit]) hdrop
      have hdesc : descend tag.line l [] target =
          descend tag.line l (target.take kept.length) (target.drop kept.length) := by
        conv_lhs => rw [← hsplit]
        exact descend_append_of_opens hkept hdrop
      rw [if_neg hfull, heq, hdesc, hsplit]
      rw [hsplit] at hopens
      exact ⟨opened', target, rfl, hgrown, hopens⟩

theorem foldl_addTag_sections (warnings : List Warning) (hc : Grown d l)
    {opened : List NodeId} {a : Address}
    (h : Opens l [] opened a) (tags : List Tag) :
    (tags.foldl (Sections.addTag d) (sections d l warnings, opened)).1 =
        sections d (tags.foldl (add d) l) (warnings ++ warningsFrom d l tags) ∧
      Grown d (tags.foldl (add d) l) := by
  induction tags generalizing l opened a warnings with
  | nil => simpa [warningsFrom] using hc
  | cons tag tags ih =>
      obtain ⟨opened', a', heq, hgrown, hopens⟩ := addTag_sections warnings hc h tag
      rw [List.foldl_cons, heq, List.foldl_cons, warningsFrom, ← List.append_assoc]
      exact ih _ hgrown hopens

theorem grown_ofTags (d : Char) (tags : List Tag) : Grown d (ofTags d tags) :=
  (foldl_addTag_sections [] Grown.nil (opens_nil [] []) tags).2

end Catalogue

/-- Building an outline with open sections gives the sections of the catalogue, which is
built without any. -/
theorem Sections.ofTags_eq_sections (tags : List Tag) (d : Char) :
    Sections.ofTags tags d =
      Catalogue.sections d (Catalogue.ofTags d tags) (Catalogue.warningsFrom d [] tags) :=
  (Catalogue.foldl_addTag_sections [] Catalogue.Grown.nil
    (Catalogue.opens_nil [] []) tags).1

theorem Outline.toSections_ofTags (tags : List Tag) (d : Char) :
    (Outline.ofTags tags d).toSections =
      Catalogue.sections d (Catalogue.ofTags d tags) (Catalogue.warningsFrom d [] tags) :=
  Sections.ofTags_eq_sections tags d

end Showcase
