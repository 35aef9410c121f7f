import Showcase.Demo.Pass

/-!
# The hover of a pass

All sections of a pass share one flag, which the first section under the pointer sets when it
reports its hover. A section looks at the flag after the sections inside it have been drawn,
so it finds the flag set if one of them is under the pointer. Hence at most one hover is
reported in a pass, and a section that reports it has no section under the pointer inside.

`Drawn s sections` says that `s` is drawn when `sections` are, at whatever depth; so `Drawn s
t.inner` says that `s` is drawn inside `t`.
-/

namespace Showcase

namespace SectionEvent

/-- The place that an event hovers. -/
def hovered? : SectionEvent → Option SectionSite
  | hover site => some site
  | activate _ => none

/-- The places that events hover, in order. -/
def hovers (events : List SectionEvent) : List SectionSite :=
  events.filterMap hovered?

end SectionEvent

namespace Report

def event? : Report → Option SectionEvent
  | event e => some e
  | note _ => none

/-- The events among reports, in order. -/
def events (reports : List Report) : List SectionEvent :=
  reports.filterMap event?

/-- The places that are reported as hovered, in order. -/
def hovers (reports : List Report) : List SectionSite :=
  SectionEvent.hovers (events reports)

@[simp] theorem hovers_append (reports later : List Report) :
    hovers (reports ++ later) = hovers reports ++ hovers later := by
  rw [hovers, events, List.filterMap_append, SectionEvent.hovers, List.filterMap_append]
  rfl

@[simp] theorem hovers_map_note (entries : List LogEntry) :
    hovers (entries.map note) = [] := by
  induction entries with
  | nil => rfl
  | cons entry entries ih => exact ih

end Report

open Report (hovers)

namespace DrawnSection

/-- A section is drawn with `sections` if it is one of them or drawn inside one of them. -/
inductive Drawn (s : DrawnSection) : List DrawnSection → Prop
  | here {sections : List DrawnSection} (h : s ∈ sections) : Drawn s sections
  | inside {t : DrawnSection} {sections : List DrawnSection} (h : t ∈ sections)
      (hs : Drawn s t.inner) : Drawn s sections

variable {s t : DrawnSection} {sections others : List DrawnSection}

theorem not_drawn_nil : ¬ Drawn s [] := by
  intro h
  cases h with
  | here h => cases h
  | inside h _ => cases h

theorem Drawn.mono (h : Drawn s sections) (hsub : sections ⊆ others) : Drawn s others := by
  cases h with
  | here h => exact .here (hsub h)
  | inside h hs => exact .inside (hsub h) hs

theorem drawn_singleton_iff : Drawn s [t] ↔ s = t ∨ Drawn s t.inner := by
  constructor
  · intro h
    cases h with
    | here h => exact .inl (List.mem_singleton.1 h)
    | inside h hs =>
        obtain rfl := List.mem_singleton.1 h
        exact .inr hs
  · rintro (rfl | hs)
    · exact .here List.mem_cons_self
    · exact .inside List.mem_cons_self hs

theorem drawn_cons_iff : Drawn s (t :: sections) ↔ Drawn s [t] ∨ Drawn s sections := by
  constructor
  · intro h
    cases h with
    | here h =>
        rcases List.mem_cons.1 h with rfl | h_mem
        · exact .inl (.here List.mem_cons_self)
        · exact .inr (.here h_mem)
    | inside h hs =>
        rcases List.mem_cons.1 h with rfl | h_mem
        · exact .inl (.inside List.mem_cons_self hs)
        · exact .inr (.inside h_mem hs)
  · rintro (hs | hs)
    · exact hs.mono (List.cons_subset_cons t (List.nil_subset sections))
    · exact hs.mono (List.subset_cons_self t sections)

/-! ## What drawing reports, part by part -/

section Parts

variable (claimed : Bool) (site : SectionSite) (underPointer codePressed : Bool)
  (notes : List LogEntry) (inner : List DrawnSection)

/-- A section reports a hover behind everything else, if it is under the pointer and the hover
is not claimed by then. -/
theorem draw_mk :
    draw claimed (mk site underPointer codePressed notes inner) =
      ((drawAll claimed inner).1 || underPointer,
        (drawAll claimed inner).2 ++ notes.map Report.note ++
            (if codePressed then [.event (.activate site)] else []) ++
          if !(drawAll claimed inner).1 && underPointer then [.event (.hover site)] else []) := by
  rw [draw]
  obtain ⟨claimed', reports⟩ := drawAll claimed inner
  cases claimed' with
  | true => simp
  | false =>
      cases underPointer with
      | true => simp
      | false => simp

theorem fst_draw_mk :
    (draw claimed (mk site underPointer codePressed notes inner)).1 =
      ((drawAll claimed inner).1 || underPointer) := by
  rw [draw_mk]

theorem hovers_draw_mk :
    hovers (draw claimed (mk site underPointer codePressed notes inner)).2 =
      hovers (drawAll claimed inner).2 ++
        if !(drawAll claimed inner).1 && underPointer then [site] else [] := by
  have h_pressed :
      hovers (if codePressed then [Report.event (.activate site)] else []) = [] := by
    cases codePressed with
    | _ => rfl
  have h_hover : ∀ b : Bool, hovers (if b then [Report.event (.hover site)] else []) =
      if b then [site] else [] := by
    intro b
    cases b with
    | _ => rfl
  rw [draw_mk]
  simp only [Report.hovers_append, Report.hovers_map_note, h_pressed, h_hover, List.append_nil]

theorem fst_drawAll_cons (s : DrawnSection) (rest : List DrawnSection) :
    (drawAll claimed (s :: rest)).1 = (drawAll (draw claimed s).1 rest).1 := by
  rw [drawAll]

theorem hovers_drawAll_cons (s : DrawnSection) (rest : List DrawnSection) :
    hovers (drawAll claimed (s :: rest)).2 =
      hovers (draw claimed s).2 ++ hovers (drawAll (draw claimed s).1 rest).2 := by
  rw [drawAll, ← Report.hovers_append]

end Parts

/-! ## Once the hover is claimed -/

mutual

theorem draw_claimed : ∀ s : DrawnSection, (draw true s).1 = true ∧ hovers (draw true s).2 = []
  | mk site underPointer codePressed notes inner => by
      obtain ⟨h_claimed, h_hovers⟩ := drawAll_claimed inner
      rw [fst_draw_mk, hovers_draw_mk, h_claimed, h_hovers]
      exact ⟨rfl, rfl⟩

/-- Once the hover is claimed, it stays claimed and none is reported. -/
theorem drawAll_claimed : ∀ sections : List DrawnSection,
    (drawAll true sections).1 = true ∧ hovers (drawAll true sections).2 = []
  | [] => ⟨rfl, rfl⟩
  | s :: rest => by
      obtain ⟨h_claimed, h_hovers⟩ := draw_claimed s
      rw [fst_drawAll_cons, hovers_drawAll_cons, h_claimed, h_hovers]
      exact drawAll_claimed rest

end

/-! ## While the hover is unclaimed -/

/-- What drawing `sections` comes to, the hover being unclaimed before: none of them is under
the pointer, or one is that has none inside it, and this one reports the hover. -/
def Finds (sections : List DrawnSection) (drawn : Bool × List Report) : Prop :=
  (drawn.1 = false ∧ hovers drawn.2 = [] ∧ ∀ s, Drawn s sections → s.underPointer = false) ∨
    drawn.1 = true ∧ ∃ s, hovers drawn.2 = [s.site] ∧ Drawn s sections ∧
      s.underPointer = true ∧ ∀ t, Drawn t s.inner → t.underPointer = false

mutual

theorem finds_draw : ∀ s : DrawnSection, Finds [s] (draw false s)
  | mk site underPointer codePressed notes inner => by
      rcases finds_drawAll inner with ⟨h_claimed, h_hovers, h_none⟩ |
        ⟨h_claimed, found, h_hovers, h_drawn, h_found⟩
      · cases underPointer with
        | true =>
            refine .inr ⟨?_, mk site true codePressed notes inner, ?_, .here List.mem_cons_self,
              rfl, h_none⟩
            · rw [fst_draw_mk, Bool.or_true]
            · rw [hovers_draw_mk, h_claimed, h_hovers]
              rfl
        | false =>
            refine .inl ⟨?_, ?_, ?_⟩
            · rw [fst_draw_mk, h_claimed]
              rfl
            · rw [hovers_draw_mk, h_claimed, h_hovers]
              rfl
            · intro s hs
              rcases drawn_singleton_iff.1 hs with rfl | h_inside
              · rfl
              · exact h_none s h_inside
      · refine .inr ⟨?_, found, ?_, .inside List.mem_cons_self h_drawn, h_found⟩
        · rw [fst_draw_mk, h_claimed]
          rfl
        · rw [hovers_draw_mk, h_claimed, h_hovers]
          rfl

theorem finds_drawAll : ∀ sections : List DrawnSection, Finds sections (drawAll false sections)
  | [] => .inl ⟨rfl, rfl, fun _ hs => (not_drawn_nil hs).elim⟩
  | first :: rest => by
      rcases finds_draw first with ⟨h_claimed, h_hovers, h_none⟩ |
        ⟨h_claimed, found, h_hovers, h_drawn, h_found⟩
      · -- nothing so far: what the rest finds is found
        have h_fst : (drawAll false (first :: rest)).1 = (drawAll false rest).1 := by
          rw [fst_drawAll_cons, h_claimed]
        have h_snd : hovers (drawAll false (first :: rest)).2 =
            hovers (drawAll false rest).2 := by
          rw [hovers_drawAll_cons, h_hovers, h_claimed, List.nil_append]
        rw [Finds, h_fst, h_snd]
        rcases finds_drawAll rest with ⟨h_unclaimed, h_quiet, h_rest⟩ |
          ⟨h_claims, found, h_hover, h_drawn, h_found⟩
        · refine .inl ⟨h_unclaimed, h_quiet, ?_⟩
          intro s hs
          rcases drawn_cons_iff.1 hs with h_first | h_later
          · exact h_none s h_first
          · exact h_rest s h_later
        · exact .inr ⟨h_claims, found, h_hover, drawn_cons_iff.2 (.inr h_drawn), h_found⟩
      · -- the hover is claimed for the rest
        obtain ⟨h_stays, h_quiet⟩ := drawAll_claimed rest
        refine .inr ⟨?_, found, ?_, drawn_cons_iff.2 (.inl h_drawn), h_found⟩
        · rw [fst_drawAll_cons, h_claimed]
          exact h_stays
        · rw [hovers_drawAll_cons, h_claimed, h_hovers, h_quiet]
          rfl

end

/-- A pass reports at most one hover. -/
theorem length_hovers_pass_le (sections : List DrawnSection) :
    (hovers (pass sections).2).length ≤ 1 := by
  rcases finds_drawAll sections with ⟨-, h_hovers, -⟩ | ⟨-, s, h_hovers, -⟩
  · rw [pass, h_hovers]
    exact Nat.zero_le 1
  · rw [pass, h_hovers]
    exact Nat.le_refl 1

end DrawnSection

/-- A pass reports no hover if nothing that it draws is under the pointer, and one hover
otherwise. This one comes from a section under the pointer with none under it inside. -/
theorem DrawnSection.hovers_pass (sections : List DrawnSection) :
    let hovered := hovers (pass sections).2
    (hovered = [] ∧ ∀ s, Drawn s sections → s.underPointer = false) ∨
      ∃ s, hovered = [s.site] ∧ Drawn s sections ∧ s.underPointer = true ∧
        ∀ t, Drawn t s.inner → t.underPointer = false := by
  rcases finds_drawAll sections with ⟨-, h_none⟩ | ⟨-, h_found⟩
  · exact .inl h_none
  · exact .inr h_found

/-- Of two overlapping sections the one drawn first reports the hover, or rather the section
inside it that is under the pointer as well. -/
example :
    let leaf (line : Nat) (on : Bool) := DrawnSection.mk ⟨"demo", line, ""⟩ on false [] []
    let first := DrawnSection.mk ⟨"demo", 1, ""⟩ true true [] [leaf 2 false, leaf 3 true]
    hovers (DrawnSection.pass [first, leaf 4 true]).2 = [⟨"demo", 3, ""⟩] := rfl

end Showcase
