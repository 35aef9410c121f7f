import Showcase.Text.Lowercase

/-!
# Lower case of a part

The lower case of a text is put together from its characters, and for all but one of them
it does not matter where they stand. The exception is the capital sigma, which has a form
of its own at the end of a word. `lowerWithin before cs after` is what a part `cs` becomes
between what stands around it, so that the lower case of a text is made of the lower cases
of its parts, each in its place.

A part is lowered within a text as it is alone exactly if no sigma of it changes its form,
which is what `KeepsSigmas` says.
-/

namespace Showcase.Text

/-- Whether a sigma between these characters, those before it the nearest first, stands at
the end of a word. -/
def endsWord (before after : List Char) : Bool :=
  meetsCased before && !meetsCased after

theorem lowerChar_sigma (before after : List Char) :
    lowerChar before 'Σ' after = [if endsWord before after then 'ς' else 'σ'] := rfl

theorem lowerChar_of_ne {c : Char} (h : c ≠ 'Σ') (before before' after after' : List Char) :
    lowerChar before c after = lowerChar before' c after' := by
  rw [lowerChar, lowerChar, if_neg h, if_neg h]

/-- How many characters a character becomes does not depend on its place. -/
theorem length_lowerChar (c : Char) (before before' after after' : List Char) :
    (lowerChar before c after).length = (lowerChar before' c after').length := by
  by_cases h : c = 'Σ'
  · obtain rfl := h
    rw [lowerChar_sigma, lowerChar_sigma, List.length_singleton, List.length_singleton]
  · rw [lowerChar_of_ne h]

theorem lowerChar_eq_iff {c : Char} {before before' after after' : List Char} :
    lowerChar before c after = lowerChar before' c after' ↔
      (c = 'Σ' → endsWord before after = endsWord before' after') := by
  by_cases h : c = 'Σ'
  · obtain rfl := h
    rw [lowerChar_sigma, lowerChar_sigma]
    cases endsWord before after <;> cases endsWord before' after' <;> simp
  · exact iff_of_true (lowerChar_of_ne h _ _ _ _) fun h_eq => absurd h_eq h

/-- The lower case of a part of a text that stands between the characters `before`, the
nearest first, and the characters `after`. -/
def lowerWithin : List Char → List Char → List Char → List Char
  | _, [], _ => []
  | before, c :: cs, after =>
    lowerChar before c (cs ++ after) ++ lowerWithin (c :: before) cs after

theorem lowerAfter_append (before cs after : List Char) :
    lowerAfter before (cs ++ after) =
      lowerWithin before cs after ++ lowerAfter (cs.reverse ++ before) after := by
  induction cs generalizing before with
  | nil => rfl
  | cons c cs ih =>
      rw [List.cons_append, lowerAfter, lowerWithin, ih, List.reverse_cons, List.append_assoc,
        List.append_assoc]
      rfl

/-- A part with nothing around it is a text. -/
theorem lowerWithin_nil_nil (cs : List Char) : lowerWithin [] cs [] = lower cs := by
  have h := lowerAfter_append [] cs []
  rw [List.append_nil, lowerAfter, List.append_nil] at h
  exact h.symm

theorem lowerWithin_infix_lower (before cs after : List Char) :
    lowerWithin before.reverse cs after <:+: lower (before ++ cs ++ after) := by
  rw [lower, List.append_assoc, lowerAfter_append, lowerAfter_append, List.append_nil]
  exact ⟨_, _, List.append_assoc _ _ _⟩

/-- A part becomes the same in two places exactly if each of its sigmas does. -/
theorem lowerWithin_eq_iff {cs before before' after after' : List Char} :
    lowerWithin before cs after = lowerWithin before' cs after' ↔
      ∀ front back, cs = front ++ 'Σ' :: back →
        endsWord (front.reverse ++ before) (back ++ after) =
          endsWord (front.reverse ++ before') (back ++ after') := by
  induction cs generalizing before before' with
  | nil => simp [lowerWithin]
  | cons c cs ih =>
      have h_length := length_lowerChar c before before' (cs ++ after) (cs ++ after')
      rw [lowerWithin, lowerWithin, List.append_eq_append_iff_of_size_eq_left h_length,
        lowerChar_eq_iff, ih]
      constructor
      · intro h_parts front back h_cs
        obtain ⟨h_first, h_rest⟩ := h_parts
        cases front with
        | nil =>
            obtain ⟨rfl, rfl⟩ := List.cons.inj h_cs
            exact h_first rfl
        | cons d front =>
            obtain ⟨rfl, rfl⟩ := List.cons.inj h_cs
            rw [List.reverse_cons, List.append_assoc, List.append_assoc]
            exact h_rest front back rfl
      · intro h_all
        refine ⟨fun h_eq => h_all [] cs (by rw [h_eq, List.nil_append]), ?_⟩
        intro front back h_cs
        have h := h_all (c :: front) back (by rw [h_cs, List.cons_append])
        rwa [List.reverse_cons, List.append_assoc, List.append_assoc] at h

/-- Every sigma of the part has the form between `before`, the nearest first, and `after`
that it has in the part alone. -/
def KeepsSigmas (before cs after : List Char) : Prop :=
  ∀ front back, cs = front ++ 'Σ' :: back →
    endsWord (front.reverse ++ before) (back ++ after) = endsWord front.reverse back

theorem lowerWithin_eq_lower_iff {before cs after : List Char} :
    lowerWithin before cs after = lower cs ↔ KeepsSigmas before cs after := by
  rw [← lowerWithin_nil_nil, lowerWithin_eq_iff]
  simp only [List.append_nil, KeepsSigmas]

/-- Neither a cased letter nor a character that case ignores. -/
def Separates (c : Char) : Prop :=
  c ∉ caseIgnorable ∧ c ∉ cased

instance : DecidablePred Separates :=
  fun c => inferInstanceAs (Decidable (c ∉ caseIgnorable ∧ c ∉ cased))

theorem meetsCased_append_of_separates {cs rest : List Char}
    (h : ∀ c ∈ rest.head?, Separates c) : meetsCased (cs ++ rest) = meetsCased cs := by
  have h_rest : meetsCased rest = false := by
    cases rest with
    | nil => rfl
    | cons c rest =>
        obtain ⟨h_ignorable, h_cased⟩ := h c rfl
        simp [meetsCased, h_ignorable, h_cased]
  rw [meetsCased, List.dropWhile_append]
  cases h_drop : cs.dropWhile (fun c => decide (c ∈ caseIgnorable)) with
  | nil =>
      rw [List.isEmpty_nil, if_pos rfl, ← meetsCased, h_rest, meetsCased, h_drop]
      rfl
  | cons c cs' =>
      rw [List.isEmpty_cons, if_neg Bool.false_ne_true, meetsCased, h_drop]
      rfl

/-- A part that is separated from what stands around it keeps its sigmas. -/
theorem keepsSigmas_of_separates {before cs after : List Char}
    (h_before : ∀ c ∈ before.head?, Separates c) (h_after : ∀ c ∈ after.head?, Separates c) :
    KeepsSigmas before cs after := by
  intro front back _
  rw [endsWord, endsWord, meetsCased_append_of_separates h_before,
    meetsCased_append_of_separates h_after]

theorem keepsSigmas_of_not_mem {before cs after : List Char} (h : 'Σ' ∉ cs) :
    KeepsSigmas before cs after := by
  intro front back h_cs
  rw [h_cs] at h
  exact absurd (List.mem_append_right front List.mem_cons_self) h

end Showcase.Text
