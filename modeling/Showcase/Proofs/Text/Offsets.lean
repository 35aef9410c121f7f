import Mathlib.Data.String.Basic

/-!
# Byte offsets in a text

A place in a text can be told by the number of bytes before it, written in UTF-8. Not every
number tells a place: a text cannot be cut inside a character, nor beyond its end. `cutAt?`
cuts a text where it can be cut, and these are the valid positions of a string.
-/

namespace Showcase.Text

open String (utf8Len)

/-- What is before a byte offset and what is behind it. -/
def cutAt? : Nat → List Char → Option (List Char × List Char)
  | 0, cs => some ([], cs)
  | _ + 1, [] => none
  | n + 1, c :: cs =>
    if c.utf8Size ≤ n + 1 then
      (cutAt? (n + 1 - c.utf8Size) cs).map fun cut => (c :: cut.1, cut.2)
    else none

theorem utf8Len_pos {cs : List Char} (h : cs ≠ []) : 0 < utf8Len cs :=
  Nat.pos_of_ne_zero fun h_zero => h (String.utf8Len_eq_zero.1 h_zero)

theorem add_utf8Len_cons (n : Nat) (c : Char) (cs : List Char) :
    n + utf8Len (c :: cs) = n + c.utf8Size + utf8Len cs := by
  rw [String.utf8Len_cons, Nat.add_comm (utf8Len cs), Nat.add_assoc]

theorem utf8Len_append_sub (cs rest : List Char) :
    utf8Len (cs ++ rest) - utf8Len rest = utf8Len cs := by
  rw [String.utf8Len_append, Nat.add_sub_cancel]

theorem cutAt?_append (before behind : List Char) :
    cutAt? (utf8Len before) (before ++ behind) = some (before, behind) := by
  induction before with
  | nil =>
      rw [String.utf8Len_nil, cutAt?]
      rfl
  | cons c before ih =>
      obtain ⟨n, hn⟩ : ∃ n, utf8Len (c :: before) = n + 1 :=
        Nat.exists_eq_succ_of_ne_zero (Nat.ne_of_gt (utf8Len_pos (List.cons_ne_nil c before)))
      have h_le : c.utf8Size ≤ n + 1 := hn ▸ Nat.le_add_left _ _
      have h_left : n + 1 - c.utf8Size = utf8Len before := by
        rw [← hn, String.utf8Len_cons, Nat.add_sub_cancel]
      rw [hn, List.cons_append, cutAt?, if_pos h_le, h_left, ih, Option.map_some]

/-- A text is cut where it has as many bytes as the offset says. -/
theorem cutAt?_eq_some_iff {n : Nat} {cs before behind : List Char} :
    cutAt? n cs = some (before, behind) ↔ cs = before ++ behind ∧ utf8Len before = n := by
  constructor
  · intro h
    fun_induction cutAt? n cs generalizing before with
    | case1 cs =>
        obtain ⟨rfl, rfl⟩ := Prod.mk.inj (Option.some.inj h)
        exact ⟨rfl, rfl⟩
    | case2 => cases h
    | case3 n c cs h_le ih =>
        obtain ⟨⟨before', behind'⟩, h_cut, h_eq⟩ := Option.map_eq_some_iff.1 h
        obtain ⟨rfl, rfl⟩ := Prod.mk.inj h_eq
        obtain ⟨rfl, h_len⟩ := ih h_cut
        refine ⟨rfl, ?_⟩
        rw [String.utf8Len_cons, h_len, Nat.sub_add_cancel h_le]
    | case4 => cases h
  · rintro ⟨rfl, rfl⟩
    exact cutAt?_append before behind

/-- The valid positions of a string are the places where its text can be cut. -/
theorem isValid_iff {s : String} {n : Nat} :
    String.Pos.Raw.IsValid s ⟨n⟩ ↔
      ∃ before behind, s.toList = before ++ behind ∧ utf8Len before = n := by
  rw [String.Pos.Raw.isValid_iff_exists_append]
  constructor
  · rintro ⟨before, behind, rfl, h_pos⟩
    refine ⟨before.toList, behind.toList, String.toList_append, ?_⟩
    rw [String.utf8Len_toList, ← String.byteIdx_rawEndPos, ← h_pos]
  · rintro ⟨before, behind, h_split, rfl⟩
    refine ⟨String.ofList before, String.ofList behind, ?_, ?_⟩
    · rw [← String.ofList_append, ← h_split, String.ofList_toList]
    · rw [String.rawEndPos_ofList]

/-- A text can be cut exactly at its valid positions. -/
theorem isSome_cutAt?_iff {s : String} {n : Nat} :
    (cutAt? n s.toList).isSome ↔ String.Pos.Raw.IsValid s ⟨n⟩ := by
  rw [isValid_iff, Option.isSome_iff_exists, Prod.exists]
  simp only [cutAt?_eq_some_iff]

/-- There is no place inside a character of two bytes. -/
example : cutAt? 1 ['é'] = none := by decide

end Showcase.Text
