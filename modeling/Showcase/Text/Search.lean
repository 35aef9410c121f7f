/-!
# Finding a text in another

Matching a text at the start of another, and looking for it at every position.
-/

namespace Showcase.Text

/-- What follows `word` when the text starts with it. -/
def after? : List Char → List Char → Option (List Char)
  | [], cs => some cs
  | _ :: _, [] => none
  | w :: ws, c :: cs => if w = c then after? ws cs else none

theorem after?_eq_some_iff {word cs rest : List Char} :
    after? word cs = some rest ↔ cs = word ++ rest := by
  induction word generalizing cs with
  | nil => simp [after?, eq_comm]
  | cons w ws ih =>
    cases cs with
    | nil => simp [after?]
    | cons c cs =>
      by_cases h : w = c
      · subst h
        simp [after?, ih]
      · simp [after?, h, Ne.symm h]

/-- Whether `word` occurs in the text as a contiguous part. -/
def occursIn (word : List Char) : List Char → Bool
  | [] => (after? word []).isSome
  | c :: cs => (after? word (c :: cs)).isSome || occursIn word cs

theorem occursIn_iff {word cs : List Char} : occursIn word cs = true ↔ word <:+: cs := by
  have h_after (cs : List Char) : (after? word cs).isSome = true ↔ word <+: cs := by
    simp only [Option.isSome_iff_exists, after?_eq_some_iff]
    exact ⟨fun ⟨r, h⟩ => ⟨r, h.symm⟩, fun ⟨r, h⟩ => ⟨r, h.symm⟩⟩
  induction cs with
  | nil => simp [occursIn, h_after]
  | cons c cs ih => simp [occursIn, h_after, ih, List.infix_cons_iff]

end Showcase.Text
