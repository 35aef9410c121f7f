import Mathlib.Data.List.Basic
import Showcase.Text.Lines
import Showcase.Text.Path

/-!
# Lines put together

`joinLines withReturn ls` writes lines behind each other, with a line feed between two of
them and a carriage return before it when asked for. Every text is made of the pieces between
its line feeds in this way. `lines` takes it apart again, but not quite into those pieces: a
carriage return at the end of a line is lost in the line end, and an empty last piece is no
line of the text.
-/

namespace Showcase.Text

/-- A line without the one carriage return that it may end in. -/
def dropReturn : List Char → List Char
  | [] => []
  | ['\r'] => []
  | c :: cs => c :: dropReturn cs

theorem dropReturn_cons {c : Char} {l : List Char} (h : ¬(c = '\r' ∧ l = [])) :
    dropReturn (c :: l) = c :: dropReturn l := by
  rw [dropReturn]
  intro hc hl
  exact h ⟨hc, hl⟩

theorem dropReturn_append_return (l : List Char) : dropReturn (l ++ ['\r']) = l := by
  induction l with
  | nil => rfl
  | cons c l ih =>
      rw [List.cons_append, dropReturn_cons (by simp), ih]

/-- The carriage return is all that is lost. -/
theorem eq_dropReturn_or (l : List Char) : l = dropReturn l ∨ l = dropReturn l ++ ['\r'] := by
  induction l with
  | nil => exact .inl rfl
  | cons c l ih =>
      by_cases hr : c = '\r' ∧ l = []
      · obtain ⟨rfl, rfl⟩ := hr
        exact .inr rfl
      · rw [dropReturn_cons hr]
        exact ih.imp (congrArg (c :: ·)) (congrArg (c :: ·))

/-- A character that does not begin a line end goes to the front of the first line. -/
theorem lines_cons {c : Char} {cs l : List Char} {ls : List (List Char)} (hc : c ≠ '\n')
    (hr : ¬(c = '\r' ∧ cs.head? = some '\n')) (h : lines cs = l :: ls) :
    lines (c :: cs) = (c :: l) :: ls := by
  rw [lines, h]
  · exact hc
  · rintro cs' rfl rfl
    exact hr ⟨rfl, rfl⟩

theorem lines_append_lineFeed {l : List Char} (rest : List Char) (h : '\n' ∉ l) :
    lines (l ++ '\n' :: rest) = dropReturn l :: lines rest := by
  induction l with
  | nil => rfl
  | cons c l ih =>
      have hc : c ≠ '\n' := Ne.symm (List.ne_of_not_mem_cons h)
      have hl : '\n' ∉ l := List.not_mem_of_not_mem_cons h
      by_cases hr : c = '\r' ∧ l = []
      · obtain ⟨rfl, rfl⟩ := hr
        rfl
      · have hhead : ¬(c = '\r' ∧ (l ++ '\n' :: rest).head? = some '\n') := by
          rintro ⟨rfl, hn⟩
          cases l with
          | nil => exact hr ⟨rfl, rfl⟩
          | cons d l =>
              obtain rfl := Option.some.inj hn
              exact hl List.mem_cons_self
        rw [List.cons_append, lines_cons hc hhead (ih hl), dropReturn_cons hr]

theorem lines_of_not_mem {l : List Char} (h : '\n' ∉ l) (hne : l ≠ []) : lines l = [l] := by
  induction l with
  | nil => exact absurd rfl hne
  | cons c l ih =>
      have hc : c ≠ '\n' := Ne.symm (List.ne_of_not_mem_cons h)
      have hl : '\n' ∉ l := List.not_mem_of_not_mem_cons h
      cases l with
      | nil =>
          rw [lines, lines_nil]
          · exact hc
          · rintro cs' - h_eq
            cases h_eq
      | cons d l =>
          have hd : ¬(c = '\r' ∧ (d :: l).head? = some '\n') := by
            rintro ⟨-, hn⟩
            obtain rfl := Option.some.inj hn
            exact hl List.mem_cons_self
          exact lines_cons hc hd (ih hl (List.cons_ne_nil d l))

/-- What stands between two lines. -/
def lineEnd (withReturn : Bool) : List Char :=
  if withReturn then ['\r', '\n'] else ['\n']

/-- A text made of lines, with a line end between two of them. -/
def joinLines (withReturn : Bool) : List (List Char) → List Char
  | [] => []
  | [l] => l
  | l :: ls => l ++ lineEnd withReturn ++ joinLines withReturn ls

/-- The text with each of its line feeds written as the given line end. -/
def withLineEnds (withReturn : Bool) (cs : List Char) : List Char :=
  cs.flatMap fun c => if c = '\n' then lineEnd withReturn else [c]

theorem withLineEnds_false (cs : List Char) : withLineEnds false cs = cs := by
  induction cs with
  | nil => rfl
  | cons c cs ih =>
      rw [withLineEnds, List.flatMap_cons, ← withLineEnds, ih]
      split
      · rename_i hc
        rw [hc]
        rfl
      · rfl

/-- A text is made of the pieces between its line feeds. -/
theorem joinLines_splitAtEach (withReturn : Bool) (cs : List Char) :
    joinLines withReturn (splitAtEach '\n' cs) = withLineEnds withReturn cs := by
  induction cs with
  | nil => rfl
  | cons c cs ih =>
      cases hps : splitAtEach '\n' cs with
      | nil => exact absurd hps (splitAtEach_ne_nil '\n' cs)
      | cons p ps =>
          rw [splitAtEach, hps, withLineEnds, List.flatMap_cons, ← withLineEnds, ← ih, hps]
          split
          · rfl
          · cases ps with
            | nil => rfl
            | cons q qs => rfl

/-- A line end takes no more from a line than one carriage return. -/
theorem lines_append_lineEnd (withReturn : Bool) {l : List Char} (rest : List Char)
    (h : '\n' ∉ l) :
    lines (l ++ lineEnd withReturn ++ rest) =
      (if withReturn then l else dropReturn l) :: lines rest := by
  cases withReturn with
  | false =>
      have h_eq : l ++ lineEnd false ++ rest = l ++ '\n' :: rest := by simp [lineEnd]
      rw [h_eq, lines_append_lineFeed rest h]
      rfl
  | true =>
      have h_eq : l ++ lineEnd true ++ rest = (l ++ ['\r']) ++ '\n' :: rest := by
        simp [lineEnd]
      have hl : '\n' ∉ l ++ ['\r'] := by simpa using h
      rw [h_eq, lines_append_lineFeed rest hl, dropReturn_append_return]
      rfl

end Showcase.Text
