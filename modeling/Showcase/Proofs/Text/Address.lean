import Mathlib.Data.List.DropRight
import Showcase.Text.Path

/-!
# Addresses

An address is the list of segments that leads from the top level down to a section. It is
what a tag path means: every tag has one address, and of the many ways to write it the
joined form is the one that a section is known by. Joining loses nothing, because the
segments of a tag are trimmed, not empty, and hold no delimiter, so the address can be read
back from the joined text. This is what lets sections be told apart by a text.
-/

namespace Showcase

/-- The segments that lead from the top level down to a section. -/
abbrev Address := List (List Char)

namespace Text

/-- What a segment of a tag path looks like: it is not empty, has no blanks around it, and
holds no delimiter. -/
structure IsSegment (d : Char) (segment : List Char) : Prop where
  ne_nil : segment ≠ []
  trimmed : trimBlanks segment = segment
  delimiter_not_mem : d ∉ segment

theorem trimBlanks_eq_rdropWhile (cs : List Char) :
    trimBlanks cs = (cs.dropWhile isBlank).rdropWhile isBlank := rfl

theorem mem_of_mem_trimBlanks {c : Char} {cs : List Char} (h : c ∈ trimBlanks cs) : c ∈ cs := by
  rw [trimBlanks_eq_rdropWhile] at h
  have hdrop : c ∈ cs.dropWhile isBlank := (List.rdropWhile_prefix _ _).subset h
  exact (List.dropWhile_sublist _).subset hdrop

/-- A trimmed text has nothing left to trim. Its first character is that of the text
without leading blanks, so trimming the end brings no blank to the front. -/
@[simp] theorem trimBlanks_trimBlanks (cs : List Char) :
    trimBlanks (trimBlanks cs) = trimBlanks cs := by
  have hfront : (trimBlanks cs).dropWhile isBlank = trimBlanks cs := by
    rw [List.dropWhile_eq_self_iff]
    intro hlen
    have hpre : trimBlanks cs <+: cs.dropWhile isBlank := List.rdropWhile_prefix _ _
    have hlen' : 0 < (cs.dropWhile isBlank).length := Nat.lt_of_lt_of_le hlen hpre.length_le
    have hget : (trimBlanks cs)[0] = (cs.dropWhile isBlank)[0] := hpre.getElem hlen
    rw [hget]
    exact List.dropWhile_get_zero_not _ _ hlen'
  rw [trimBlanks_eq_rdropWhile, hfront, trimBlanks_eq_rdropWhile, List.rdropWhile_idempotent]

theorem isSegment_of_mem_segments {d : Char} {text segment : List Char}
    (h : segment ∈ segments d text) : IsSegment d segment := by
  rw [segments, List.mem_filter, List.mem_map] at h
  obtain ⟨⟨piece, hpiece, rfl⟩, hne⟩ := h
  refine ⟨by simpa using hne, trimBlanks_trimBlanks piece, ?_⟩
  intro hd
  exact not_mem_of_mem_splitAtEach hpiece (mem_of_mem_trimBlanks hd)

theorem getLast?_segments (d : Char) (text : List Char) :
    (segments d text).getLast? = (splitAtEach d text).reverse.findSome? fun piece =>
      if (trimBlanks piece).isEmpty then none else some (trimBlanks piece) := by
  rw [segments, ← List.filterMap_eq_filter, List.filterMap_map, List.getLast?_filterMap]
  congr 1
  funext piece
  cases h : (trimBlanks piece).isEmpty with
  | true => simp [h]
  | false => simp [h]

/-- Looking from the right for a piece with more than blanks finds the last segment. -/
theorem lastSegment_eq (tag : String) :
    lastSegment tag = ((segments '/' tag.toList).getLast?.map String.ofList).getD tag := by
  rw [lastSegment, getLast?_segments]
  split
  · rename_i h_last
    rw [h_last]
    rfl
  · rename_i h_none
    rw [h_none]
    rfl

theorem trimBlanks_eq_nil_iff {cs : List Char} : trimBlanks cs = [] ↔ isBlankText cs = true := by
  rw [trimBlanks_eq_rdropWhile, List.rdropWhile_eq_nil_iff, isBlankText, List.all_eq_true]
  constructor
  · intro h c hc
    rw [← List.takeWhile_append_dropWhile (p := isBlank) (l := cs), List.mem_append] at hc
    rcases hc with hc | hc
    · exact List.mem_takeWhile_imp hc
    · exact h c hc
  · intro h c hc
    exact h c ((List.dropWhile_sublist isBlank).subset hc)

theorem all_splitAtEach (p : Char → Bool) (d : Char) (cs : List Char) :
    ((splitAtEach d cs).all fun piece => piece.all p) = cs.all fun c => c == d || p c := by
  induction cs with
  | nil => rfl
  | cons c cs ih =>
    rw [List.all_cons, ← ih, splitAtEach]
    split
    · rename_i hc
      simp [hc]
    · rename_i hc
      cases hps : splitAtEach d cs with
      | nil => exact absurd hps (splitAtEach_ne_nil d cs)
      | cons piece pieces => simp [beq_false_of_ne hc, Bool.and_assoc]

/-- Whether a text has nothing in it but delimiters and blanks. -/
def isBare (d : Char) (cs : List Char) : Bool :=
  cs.all fun c => c == d || isBlank c

theorem segments_eq_nil_iff {d : Char} {text : List Char} :
    segments d text = [] ↔ isBare d text = true := by
  rw [isBare, ← all_splitAtEach, List.all_eq_true, segments, List.filter_eq_nil_iff,
    List.forall_mem_map]
  refine forall₂_congr fun piece _ => ?_
  rw [Bool.not_eq_true, Bool.not_eq_false', List.isEmpty_iff, trimBlanks_eq_nil_iff, isBlankText]

theorem isBare_of_isBlankText {cs : List Char} (d : Char) (h : isBlankText cs = true) :
    isBare d cs = true := by
  rw [isBlankText, List.all_eq_true] at h
  rw [isBare, List.all_eq_true]
  intro c hc
  rw [h c hc, Bool.or_true]

/-- The address of a path can be read back from its joined form. -/
theorem segments_joinWith {d : Char} {a : Address} (h : ∀ segment ∈ a, IsSegment d segment) :
    segments d (joinWith d a) = a := by
  by_cases hne : a = []
  · subst hne
    simp [segments, joinWith, splitAtEach]
  · have hsplit : splitAtEach d (joinWith d a) = a :=
      splitAtEach_joinWith hne fun segment hs => (h segment hs).delimiter_not_mem
    have htrim : a.map trimBlanks = a :=
      List.map_congr_left (fun segment hs => (h segment hs).trimmed) |>.trans a.map_id
    rw [segments, hsplit, htrim, List.filter_eq_self]
    intro segment hs
    simpa using (h segment hs).ne_nil

theorem joinWith_inj {d : Char} {a b : Address} (ha : ∀ segment ∈ a, IsSegment d segment)
    (hb : ∀ segment ∈ b, IsSegment d segment) : joinWith d a = joinWith d b ↔ a = b := by
  constructor
  · intro h
    rw [← segments_joinWith ha, h, segments_joinWith hb]
  · rintro rfl
    rfl

end Text

end Showcase
