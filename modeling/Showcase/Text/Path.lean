import Showcase.Text.Blank

/-!
# Tag paths

A tag names a section by a path: segments between delimiters. Blanks around a segment and
segments without any other character do not count, so a path can be written in several
ways; joining its segments gives the one form under which the section is known.
-/

namespace Showcase.Text

/-- The pieces of a text between the delimiters `d`. There is one more than delimiters. -/
def splitAtEach (d : Char) : List Char → List (List Char)
  | [] => [[]]
  | c :: cs =>
    if c = d then [] :: splitAtEach d cs
    else
      match splitAtEach d cs with
      | [] => [[c]]
      | piece :: pieces => (c :: piece) :: pieces

/-- The pieces with one delimiter between any two of them. -/
def joinWith (d : Char) : List (List Char) → List Char
  | [] => []
  | [piece] => piece
  | piece :: pieces => piece ++ d :: joinWith d pieces

theorem splitAtEach_ne_nil (d : Char) (cs : List Char) : splitAtEach d cs ≠ [] := by
  cases cs with
  | nil => simp [splitAtEach]
  | cons c cs =>
    unfold splitAtEach
    split
    · simp
    · split <;> simp

theorem not_mem_of_mem_splitAtEach {d : Char} {cs piece : List Char}
    (h : piece ∈ splitAtEach d cs) : d ∉ piece := by
  induction cs generalizing piece with
  | nil =>
    rw [splitAtEach, List.mem_singleton] at h
    simp [h]
  | cons c cs ih =>
    unfold splitAtEach at h
    split at h
    · rcases List.mem_cons.1 h with rfl | h
      · simp
      · exact ih h
    · rename_i hc
      split at h
      · rw [List.mem_singleton] at h
        simp [h, Ne.symm hc]
      · rename_i p ps hps
        rcases List.mem_cons.1 h with rfl | h
        · have hp : d ∉ p := ih (by simp [hps])
          simp [hp, Ne.symm hc]
        · exact ih (by simp [hps, h])

theorem splitAtEach_of_not_mem {d : Char} {cs : List Char} (h : d ∉ cs) :
    splitAtEach d cs = [cs] := by
  induction cs with
  | nil => rfl
  | cons c cs ih =>
    rw [List.mem_cons, not_or] at h
    rw [splitAtEach, if_neg (Ne.symm h.1), ih h.2]

theorem splitAtEach_append (d : Char) (cs rest : List Char) :
    splitAtEach d (cs ++ d :: rest) = splitAtEach d cs ++ splitAtEach d rest := by
  induction cs with
  | nil => simp [splitAtEach]
  | cons c cs ih =>
    rw [List.cons_append, splitAtEach, splitAtEach, ih]
    split
    · rfl
    · cases hps : splitAtEach d cs with
      | nil => exact absurd hps (splitAtEach_ne_nil d cs)
      | cons p ps => rfl

theorem length_splitAtEach (d : Char) (cs : List Char) :
    (splitAtEach d cs).length = cs.count d + 1 := by
  induction cs with
  | nil => rfl
  | cons c cs ih =>
    rw [splitAtEach, List.count_cons, ← Nat.add_right_comm, ← ih]
    split
    · rename_i hc
      simp [hc]
    · rename_i hc
      cases hps : splitAtEach d cs with
      | nil => exact absurd hps (splitAtEach_ne_nil d cs)
      | cons p ps => simp [hc]

/-- Splitting undoes joining, for pieces without delimiters. -/
theorem splitAtEach_joinWith {d : Char} {pieces : List (List Char)} (hne : pieces ≠ [])
    (h : ∀ piece ∈ pieces, d ∉ piece) : splitAtEach d (joinWith d pieces) = pieces := by
  induction pieces with
  | nil => exact absurd rfl hne
  | cons piece pieces ih =>
    have hpiece : d ∉ piece := h piece (by simp)
    cases pieces with
    | nil => exact splitAtEach_of_not_mem hpiece
    | cons next rest =>
      rw [joinWith, splitAtEach_append, splitAtEach_of_not_mem hpiece, List.singleton_append,
        ih (by simp) fun p hp => h p (by simp [hp])]
      simp

/-- The segments of a tag path: the pieces without the blanks around them, empty ones left
out. -/
def segments (d : Char) (text : List Char) : List (List Char) :=
  ((splitAtEach d text).map trimBlanks).filter (!·.isEmpty)

/-- The title of the section that a tag names when `/` is the delimiter: its last segment,
looked for from the right, or the whole tag when it has none. -/
def lastSegment (tag : String) : String :=
  match (splitAtEach '/' tag.toList).reverse.findSome? fun piece =>
    if (trimBlanks piece).isEmpty then none else some (trimBlanks piece) with
  | some segment => String.ofList segment
  | none => tag

end Showcase.Text
