import Showcase.Outline.Basic
import Showcase.Proofs.Text.Address

/-!
# Catalogues

A catalogue lists the nodes of an outline without their links: the line of a node, its
address, and how the node came to be. The links follow from the addresses. A section lies
in the one whose address lacks its last segment, a repeat in the section it repeats, and the
children of a node are those that have it as their parent, in the order of the catalogue.

`Grown` says which catalogues come from adding one entry after the other: the section
around an entry is listed before it, and an entry is a repeat exactly when its address is
listed before it. So every address has one entry that is no repeat, and that one comes first.
-/

namespace Showcase

/-- A node of an outline without its links. -/
structure Entry where
  line : Nat
  address : Address
  origin : NodeOrigin
  deriving DecidableEq, Repr

namespace Entry

/-- The address of the node around an entry; a repeat lies in the section it repeats. -/
def above (e : Entry) : Address :=
  if e.origin = .duplicate then e.address else e.address.dropLast

/-- The last segment. -/
def title (e : Entry) : String :=
  String.ofList (e.address.getLast?.getD [])

/-- The segments joined by the delimiter. -/
def path (d : Char) (e : Entry) : String :=
  String.ofList (Text.joinWith d e.address)

theorem above_of_duplicate {e : Entry} (h : e.origin = .duplicate) : e.above = e.address :=
  if_pos h

theorem above_of_ne_duplicate {e : Entry} (h : e.origin ≠ .duplicate) :
    e.above = e.address.dropLast :=
  if_neg h

end Entry

/-- The nodes of an outline without their links, in the order in which they were made. -/
abbrev Catalogue := List Entry

namespace Catalogue

/-- The position of the first entry with an address. -/
def position? (l : Catalogue) (a : Address) : Option NodeId :=
  (l.findIdx? fun e => e.address == a).map NodeId.mk

/-- The first entry with an address. -/
def first? (l : Catalogue) (a : Address) : Option Entry :=
  l.find? fun e => e.address == a

/-- The position of the node around the one at `id`; `none` at the top level. -/
def parent? (l : Catalogue) (id : NodeId) : Option NodeId :=
  (l[id.index]?).bind fun e => position? l e.above

/-- The positions of the nodes directly inside `parent`, `none` being the root. -/
def inside (l : Catalogue) (parent : Option NodeId) : List NodeId :=
  ((List.range l.length).map NodeId.mk).filter fun id => parent? l id = parent

/-- What an entry needs to come next in a catalogue. -/
structure Admits (d : Char) (l : Catalogue) (e : Entry) : Prop where
  ne_nil : e.address ≠ []
  isSegment : ∀ segment ∈ e.address, Text.IsSegment d segment
  above_known : e.above = [] ∨ (position? l e.above).isSome
  duplicate_iff : e.origin = .duplicate ↔ (position? l e.address).isSome

/-- The catalogues that come from adding entries one after the other. -/
inductive Grown (d : Char) : Catalogue → Prop
  | nil : Grown d []
  | concat {l : Catalogue} {e : Entry} (hc : Grown d l) (he : Admits d l e) : Grown d (l ++ [e])

/-! ## Positions -/

@[simp] theorem position?_empty (a : Address) : position? [] a = none := rfl

theorem position?_concat (l : Catalogue) (e : Entry) (a : Address) :
    position? (l ++ [e]) a =
      (position? l a).or (if e.address = a then some ⟨l.length⟩ else none) := by
  unfold position?
  rw [List.findIdx?_append]
  cases h : l.findIdx? fun e => e.address == a with
  | some i => rfl
  | none =>
      by_cases ha : e.address = a
      · simp [ha]
      · simp [ha]

theorem position?_append_of_some {l : Catalogue} {a : Address} {id : NodeId}
    (h : position? l a = some id) (l' : Catalogue) : position? (l ++ l') a = some id := by
  unfold position? at h ⊢
  obtain ⟨i, hi, rfl⟩ := Option.map_eq_some_iff.1 h
  rw [List.findIdx?_append, hi]
  rfl

theorem isSome_position?_iff {l : Catalogue} {a : Address} :
    (position? l a).isSome ↔ ∃ e ∈ l, e.address = a := by
  simp [position?, List.findIdx?_isSome]

theorem getElem?_of_position? {l : Catalogue} {a : Address} {id : NodeId}
    (h : position? l a = some id) : ∃ e, l[id.index]? = some e ∧ e.address = a := by
  obtain ⟨i, hi, rfl⟩ := Option.map_eq_some_iff.1 h
  obtain ⟨hlt, heq, -⟩ := List.findIdx?_eq_some_iff_getElem.1 hi
  exact ⟨l[i], List.getElem?_eq_getElem hlt, by simpa using heq⟩

theorem index_lt_of_position? {l : Catalogue} {a : Address} {id : NodeId}
    (h : position? l a = some id) : id.index < l.length := by
  obtain ⟨e, he, -⟩ := getElem?_of_position? h
  exact (List.getElem?_eq_some_iff.1 he).1

theorem first?_eq_bind_position? (l : Catalogue) (a : Address) :
    first? l a = (position? l a).bind fun id => l[id.index]? := by
  unfold first? position?
  rw [List.find?_eq_bind_findIdx?_getElem?]
  cases l.findIdx? fun e => e.address == a <;> rfl

/-! ## Growing -/

namespace Grown

variable {d : Char} {l : Catalogue} {e : Entry}

theorem address_ne_nil (h : Grown d l) (he : e ∈ l) : e.address ≠ [] := by
  induction h with
  | nil => simp at he
  | concat hc ha ih =>
      rcases List.mem_append.1 he with he | he
      · exact ih he
      · rw [List.mem_singleton] at he
        subst he
        exact ha.ne_nil

theorem isSegment (h : Grown d l) (he : e ∈ l) {segment : List Char}
    (hs : segment ∈ e.address) : Text.IsSegment d segment := by
  induction h with
  | nil => simp at he
  | concat hc ha ih =>
      rcases List.mem_append.1 he with he | he
      · exact ih he
      · rw [List.mem_singleton] at he
        subst he
        exact ha.isSegment segment hs

theorem position?_nil (h : Grown d l) : position? l [] = none := by
  rw [← Option.not_isSome_iff_eq_none, isSome_position?_iff]
  rintro ⟨e, he, ha⟩
  exact h.address_ne_nil he ha

theorem above_known (h : Grown d l) (he : e ∈ l) :
    e.above = [] ∨ (position? l e.above).isSome := by
  induction h with
  | nil => simp at he
  | @concat l f hc hf ih =>
      have hknown : e.above = [] ∨ (position? l e.above).isSome := by
        rcases List.mem_append.1 he with he | he
        · exact ih he
        · rw [List.mem_singleton] at he
          subst he
          exact hf.above_known
      refine hknown.imp_right fun hsome => ?_
      obtain ⟨id, hid⟩ := Option.isSome_iff_exists.1 hsome
      rw [position?_append_of_some hid]
      rfl

/-- The first entry with an address is no repeat. -/
theorem origin_of_position? (h : Grown d l) {a : Address} {id : NodeId}
    (hid : position? l a = some id) {e : Entry} (he : l[id.index]? = some e) :
    e.origin ≠ .duplicate := by
  induction h with
  | nil => simp at hid
  | @concat l f hc hf ih =>
      rw [position?_concat] at hid
      cases hp : position? l a with
      | some id' =>
          rw [hp] at hid
          obtain rfl : id' = id := by simpa using hid
          rw [List.getElem?_append_left (index_lt_of_position? hp)] at he
          exact ih hp he
      | none =>
          rw [hp, Option.none_or] at hid
          split at hid
          · rename_i ha
            obtain rfl := Option.some.inj hid
            have hfe : f = e := by simpa using he
            subst hfe
            rw [← ha] at hp
            rw [Ne, hf.duplicate_iff, hp]
            simp
          · simp at hid

/-- An entry that is no repeat is the first with its address. -/
theorem position?_address (h : Grown d l) {i : Nat} (he : l[i]? = some e)
    (ho : e.origin ≠ .duplicate) : position? l e.address = some ⟨i⟩ := by
  induction h generalizing i with
  | nil => simp at he
  | @concat l f hc hf ih =>
      by_cases hi : i < l.length
      · rw [List.getElem?_append_left hi] at he
        exact position?_append_of_some (ih he) _
      · obtain ⟨hlt, heq⟩ := List.getElem?_eq_some_iff.1 he
        rw [List.length_append, List.length_singleton] at hlt
        obtain rfl : i = l.length := by omega
        have hfe : f = e := by simpa using heq
        subst hfe
        have hp : position? l f.address = none := by
          rw [← Option.not_isSome_iff_eq_none, ← hf.duplicate_iff]
          exact ho
        rw [position?_concat, hp]
        simp

end Grown

end Catalogue

end Showcase
