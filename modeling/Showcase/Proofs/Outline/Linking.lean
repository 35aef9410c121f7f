import Showcase.Outline.Build
import Showcase.Proofs.Outline.Catalogue

/-!
# The sections of a catalogue

`sections d l warnings` is the outline that a catalogue describes: every link, title, path
and depth is read off the addresses. Adding a section to it, or a repeat, gives the sections
of the catalogue with one more entry. So whatever is built by adding has its nodes, roots
and paths described in full by a list of lines, addresses and origins.
-/

namespace Showcase

namespace Catalogue

/-- The node of an entry that stands at `index`. -/
def node (d : Char) (l : Catalogue) (index : Nat) (e : Entry) : OutlineNode where
  title := e.title
  path := e.path d
  line := e.line
  depth := e.above.length
  origin := e.origin
  parent := position? l e.above
  children := inside l (some ⟨index⟩)

/-- The path of every entry that is no repeat, the latest first. -/
def paths (d : Char) (l : Catalogue) : List (String × NodeId) :=
  ((l.zipIdx.filter fun p => p.1.origin ≠ .duplicate).map fun p => (p.1.path d, ⟨p.2⟩)).reverse

/-- The sections that a catalogue describes. -/
def sections (d : Char) (l : Catalogue) (warnings : List Warning) : Sections where
  nodes := (l.mapIdx (node d l)).toArray
  roots := inside l none
  paths := paths d l
  warnings

/-- The warning that a new entry causes: it repeats a section that was tagged. -/
def repeatWarnings (d : Char) (l : Catalogue) (line : Nat) (a : Address) : List Warning :=
  if (first? l a).any fun e => e.origin = .tagged then
    [.duplicatePath line (String.ofList (Text.joinWith d a))]
  else []

variable {d : Char} {l : Catalogue} {e : Entry} {warnings : List Warning}

/-! ## Questions about the sections of a catalogue -/

@[simp] theorem size_sections : (sections d l warnings).size = l.length := by
  simp [sections, Sections.size]

theorem get?_sections (id : NodeId) :
    (sections d l warnings).get? id = (l[id.index]?).map (node d l id.index) := by
  simp [sections, Sections.get?]

theorem get?_sections_of_getElem? {id : NodeId} (h : l[id.index]? = some e) :
    (sections d l warnings).get? id = some (node d l id.index e) := by
  rw [get?_sections, h, Option.map_some]

theorem exists_entry_of_get? {id : NodeId} {n : OutlineNode}
    (h : (sections d l warnings).get? id = some n) :
    ∃ e, l[id.index]? = some e ∧ node d l id.index e = n := by
  rw [get?_sections] at h
  exact Option.map_eq_some_iff.1 h

theorem parent?_sections (id : NodeId) :
    (sections d l warnings).parent? id = parent? l id := by
  unfold Sections.parent? parent?
  rw [get?_sections]
  cases l[id.index]? <;> rfl

theorem mem_inside {parent : Option NodeId} {id : NodeId} :
    id ∈ inside l parent ↔ id.index < l.length ∧ parent? l id = parent := by
  unfold inside
  rw [List.mem_filter, List.mem_map, decide_eq_true_eq]
  refine and_congr_left fun _ => ?_
  constructor
  · rintro ⟨i, hi, rfl⟩
    exact List.mem_range.1 hi
  · intro hi
    exact ⟨id.index, List.mem_range.2 hi, rfl⟩

/-! ## One entry more -/

theorem position?_above_concat (hc : Grown d l) (he : Admits d l e) {a : Address}
    (ha : a = [] ∨ (position? l a).isSome) : position? (l ++ [e]) a = position? l a := by
  rcases ha with rfl | hsome
  · rw [(hc.concat he).position?_nil, hc.position?_nil]
  · obtain ⟨id, hid⟩ := Option.isSome_iff_exists.1 hsome
    rw [position?_append_of_some hid, hid]

theorem parent?_concat (hc : Grown d l) (he : Admits d l e) (id : NodeId) :
    parent? (l ++ [e]) id =
      if id.index = l.length then position? l e.above else parent? l id := by
  unfold parent?
  split
  · rename_i hid
    rw [hid, List.getElem?_concat_length, Option.bind_some,
      position?_above_concat hc he he.above_known]
  · rename_i hid
    have hget : (l ++ [e])[id.index]? = l[id.index]? := by
      rw [List.getElem?_append]
      split
      · rfl
      · rw [List.getElem?_eq_none (l := l) (by omega), List.getElem?_eq_none (by simp; omega)]
    rw [hget]
    cases hf : l[id.index]? with
    | none => rfl
    | some f =>
        rw [Option.bind_some, Option.bind_some,
          position?_above_concat hc he (hc.above_known (List.mem_of_getElem? hf))]

theorem inside_concat (hc : Grown d l) (he : Admits d l e) (parent : Option NodeId) :
    inside (l ++ [e]) parent =
      inside l parent ++ if position? l e.above = parent then [⟨l.length⟩] else [] := by
  unfold inside
  rw [List.length_append, List.length_singleton, List.range_succ, List.map_append,
    List.filter_append]
  congr 1
  · apply List.filter_congr
    intro id hid
    obtain ⟨i, hi, rfl⟩ := List.mem_map.1 hid
    have hne : i ≠ l.length := Nat.ne_of_lt (List.mem_range.1 hi)
    rw [parent?_concat hc he, if_neg hne]
  · simp [parent?_concat hc he, List.filter_cons]

/-- The parent of a node is found before the node. -/
theorem parent?_lt (h : Grown d l) {id p : NodeId} (hp : parent? l id = some p) :
    p.index < id.index := by
  induction h with
  | nil => simp [parent?] at hp
  | concat hc he ih =>
      rw [parent?_concat hc he] at hp
      split at hp
      · rename_i hid
        rw [hid]
        exact index_lt_of_position? hp
      · exact ih hp

/-- The nodes already there get the new one as a child where it belongs. -/
theorem node_concat (hc : Grown d l) (he : Admits d l e) {i : Nat} {f : Entry}
    (hf : l[i]? = some f) :
    node d (l ++ [e]) i f =
      if position? l e.above = some ⟨i⟩ then
        { node d l i f with children := (node d l i f).children ++ [⟨l.length⟩] }
      else node d l i f := by
  have hparent := position?_above_concat hc he (hc.above_known (List.mem_of_getElem? hf))
  unfold node
  rw [hparent, inside_concat hc he]
  split <;> simp

theorem node_concat_length (hc : Grown d l) (he : Admits d l e) :
    node d (l ++ [e]) l.length e =
      ⟨e.title, e.path d, e.line, e.above.length, e.origin, position? l e.above, []⟩ := by
  have hself : inside (l ++ [e]) (some ⟨l.length⟩) = [] := by
    rw [List.eq_nil_iff_forall_not_mem]
    intro id hid
    obtain ⟨hlt, hp⟩ := mem_inside.1 hid
    have hlast : l.length < id.index := parent?_lt (hc.concat he) hp
    rw [List.length_append, List.length_singleton] at hlt
    omega
  unfold node
  rw [hself, position?_above_concat hc he he.above_known]

theorem mapIdx_node_concat_of_some (hc : Grown d l) (he : Admits d l e) {p : NodeId}
    (hp : position? l e.above = some p) :
    (l ++ [e]).mapIdx (node d (l ++ [e])) =
      ((l.mapIdx (node d l)).modify p.index fun n =>
        { n with children := n.children ++ [⟨l.length⟩] }) ++
        [⟨e.title, e.path d, e.line, e.above.length, e.origin, some p, []⟩] := by
  rw [List.mapIdx_concat, node_concat_length hc he, hp]
  congr 1
  apply List.ext_getElem?
  intro i
  rw [List.getElem?_modify, List.getElem?_mapIdx, List.getElem?_mapIdx]
  cases hf : l[i]? with
  | none => rfl
  | some f =>
      rw [Option.map_some, node_concat hc he hf, hp]
      by_cases hi : p.index = i
      · subst hi
        simp
      · have hne : p ≠ ⟨i⟩ := fun h => hi (congrArg NodeId.index h)
        simp [hi, hne]

theorem mapIdx_node_concat_of_none (hc : Grown d l) (he : Admits d l e)
    (hp : position? l e.above = none) :
    (l ++ [e]).mapIdx (node d (l ++ [e])) =
      l.mapIdx (node d l) ++
        [⟨e.title, e.path d, e.line, e.above.length, e.origin, none, []⟩] := by
  rw [List.mapIdx_concat, node_concat_length hc he, hp]
  congr 1
  apply List.ext_getElem?
  intro i
  rw [List.getElem?_mapIdx, List.getElem?_mapIdx]
  cases hf : l[i]? with
  | none => rfl
  | some f => simp [node_concat hc he hf, hp]

theorem paths_concat (d : Char) (l : Catalogue) (e : Entry) :
    paths d (l ++ [e]) =
      if e.origin = .duplicate then paths d l else (e.path d, ⟨l.length⟩) :: paths d l := by
  unfold paths
  rw [List.zipIdx_append, List.filter_append, List.map_append, List.reverse_append]
  by_cases ho : e.origin = .duplicate
  · simp [ho]
  · simp [ho]

/-- The path of an address leads to the first entry with that address. -/
theorem find?_sections (h : Grown d l) {a : Address}
    (ha : ∀ segment ∈ a, Text.IsSegment d segment) :
    (sections d l warnings).find? (String.ofList (Text.joinWith d a)) = position? l a := by
  show (paths d l).lookup (String.ofList (Text.joinWith d a)) = position? l a
  induction h with
  | nil => rfl
  | @concat l e hc he ih =>
      rw [paths_concat, position?_concat]
      have hsame : String.ofList (Text.joinWith d a) = e.path d ↔ e.address = a := by
        unfold Entry.path
        rw [String.ofList_inj, Text.joinWith_inj ha he.isSegment, eq_comm]
      split
      · rename_i ho
        rw [ih]
        by_cases hea : e.address = a
        · subst hea
          obtain ⟨id, hid⟩ := Option.isSome_iff_exists.1 (he.duplicate_iff.1 ho)
          rw [hid]
          rfl
        · simp [hea]
      · rename_i ho
        rw [List.lookup_cons]
        by_cases hea : e.address = a
        · have hnone : position? l a = none := by
            rw [← hea, ← Option.not_isSome_iff_eq_none, ← he.duplicate_iff]
            exact ho
          rw [hnone, hsame.2 hea]
          simp [hea]
        · have hne : (String.ofList (Text.joinWith d a) == e.path d) = false := by
            rw [beq_eq_false_iff_ne]
            exact fun h => hea (hsame.1 h)
          rw [hne, ih]
          simp [hea]

/-! ## Adding to the sections of a catalogue -/

theorem length_above_of_parent (hc : Grown d l) {p : NodeId}
    (hp : position? l e.above = some p) {f : Entry} (hf : l[p.index]? = some f) :
    e.above.length = f.above.length + 1 := by
  have hfo := hc.origin_of_position? hp hf
  obtain ⟨f', hf', haddr⟩ := getElem?_of_position? hp
  obtain rfl : f' = f := Option.some.inj (hf'.symm.trans hf)
  have hne := hc.address_ne_nil (List.mem_of_getElem? hf)
  rw [Entry.above_of_ne_duplicate hfo, List.length_dropLast, haddr]
  rw [haddr] at hne
  have := List.length_pos_iff.2 hne
  omega

theorem addSection_sections (warnings : List Warning) (hc : Grown d l) (he : Admits d l e)
    (ho : e.origin ≠ .duplicate) :
    (sections d l warnings).addSection (position? l e.above) e.title (e.path d) e.line e.origin =
      (sections d (l ++ [e]) warnings, ⟨l.length⟩) := by
  have hpaths : paths d (l ++ [e]) = (e.path d, ⟨l.length⟩) :: paths d l := by
    rw [paths_concat, if_neg ho]
  cases hp : position? l e.above with
  | none =>
      have habove : e.above.length = 0 := by
        rcases he.above_known with h | h
        · rw [h]
          rfl
        · simp [hp] at h
      have hroots : inside (l ++ [e]) none = inside l none ++ [⟨l.length⟩] := by
        rw [inside_concat hc he, if_pos hp]
      unfold Sections.addSection
      simp only [size_sections, Option.bind_none]
      simp only [sections, hpaths, hroots, mapIdx_node_concat_of_none hc he hp, habove,
        List.push_toArray]
  | some p =>
      obtain ⟨f, hf, -⟩ := getElem?_of_position? hp
      have hdepth : e.above.length = f.above.length + 1 := length_above_of_parent hc hp hf
      have hroots : inside (l ++ [e]) none = inside l none := by
        rw [inside_concat hc he, hp]
        simp
      unfold Sections.addSection
      simp only [size_sections, Option.bind_some, get?_sections, hf, Option.map_some]
      simp only [sections, hpaths, hroots, mapIdx_node_concat_of_some hc he hp, hdepth,
        List.push_toArray, List.modify_toArray]
      rfl

theorem addRepeat_sections (warnings : List Warning) (hc : Grown d l) (he : Admits d l e)
    (ho : e.origin = .duplicate) {id : NodeId} (hid : position? l e.address = some id) :
    (sections d l warnings).addRepeat id e.line =
      sections d (l ++ [e]) (warnings ++ repeatWarnings d l e.line e.address) := by
  have habove : e.above = e.address := Entry.above_of_duplicate ho
  have hp : position? l e.above = some id := by rw [habove, hid]
  obtain ⟨f, hf, haddr⟩ := getElem?_of_position? hid
  have hfirst : first? l e.address = some f := by
    rw [first?_eq_bind_position?, hid, Option.bind_some, hf]
  have hdepth : e.above.length = f.above.length + 1 := length_above_of_parent hc hp hf
  have hpaths : paths d (l ++ [e]) = paths d l := by
    rw [paths_concat, if_pos ho]
  have hroots : inside (l ++ [e]) none = inside l none := by
    rw [inside_concat hc he, hp]
    simp
  have htitle : f.title = e.title := by rw [Entry.title, haddr, Entry.title]
  have hpath : f.path d = e.path d := by rw [Entry.path, haddr, Entry.path]
  unfold Sections.addRepeat
  simp only [size_sections, get?_sections, hf, Option.map_some]
  simp only [sections, hpaths, hroots, mapIdx_node_concat_of_some hc he hp, hdepth, ho,
    List.push_toArray, List.modify_toArray, repeatWarnings, hfirst, Option.any_some]
  simp only [node, htitle, hpath]
  by_cases htag : f.origin = .tagged
  · simp [htag, Entry.path]
  · simp [htag]

end Catalogue

end Showcase
