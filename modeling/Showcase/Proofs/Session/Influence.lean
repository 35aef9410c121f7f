import Showcase.Proofs.Session.Frame

/-!
# What a step can influence

A script is a run in which some steps may be left out. The steps that stay are compared with
themselves, once in the full run and once in the run without the others.

What a step cannot influence is said by what is left when the rest is hidden. `hide` takes
out of a session all that some steps may change. `Conceals hide silent` says that the steps
which are `silent` change nothing else, and that no step carries what is hidden over to what
is not. Hovers and view steps change the view, the selection and the line followed last, and
the editor learns of none of these. View steps change the view alone.
-/

namespace Showcase

namespace SessionStep

/-- Whether a step concerns the view of the outline alone. -/
def isView : SessionStep → Bool
  | view _ => true
  | _ => false

def isHover : SessionStep → Bool
  | event e => e.isHover
  | _ => false

/-- Whether a step asks what the reader sees: the view, or the session described. -/
def isLook : SessionStep → Bool
  | view _ => true
  | describe => true
  | _ => false

end SessionStep

/-- A step of a script, and whether it stays when steps are left out. -/
structure Cue where
  step : SessionStep
  stays : Bool
  deriving DecidableEq, Repr

/-- A session and the step that is performed in it. -/
structure Moment (ε : Type) where
  before : Session ε
  step : SessionStep

variable {ε : Type} [Editor ε]

namespace Moment

def answer (m : Moment ε) : Answer :=
  (m.before.perform m.step).1

def after (m : Moment ε) : Session ε :=
  (m.before.perform m.step).2

/-- What the editor and its surroundings learn is the same at two moments. -/
structure SameOutside (a b : Moment ε) : Prop where
  step : a.step = b.step
  editor : a.after.editor = b.after.editor
  cursorLine : a.after.cursorLine = b.after.cursorLine
  link : a.after.link = b.after.link
  answer : a.step.isLook = false → a.answer = b.answer

/-- What is selected and followed is the same at two moments. -/
structure SameNavigation (a b : Moment ε) : Prop where
  step : a.step = b.step
  selection : a.after.selection = b.after.selection
  follow : a.after.follow = b.after.follow

end Moment

namespace Session

/-- The steps of a script that stay, each with the session that it is performed in, while all
steps of the script are performed. -/
def trace (s : Session ε) : List Cue → List (Moment ε)
  | [] => []
  | cue :: cues =>
    let after := (s.perform cue.step).2
    if cue.stays then ⟨s, cue.step⟩ :: after.trace cues else after.trace cues

/-! ## Hiding a part of a session -/

/-- What `hide` takes out of a session is all that `silent` steps change, and makes no
difference to the rest at any step. -/
structure Conceals (hide : Session ε → Session ε) (silent : SessionStep → Bool) : Prop where
  perform : ∀ s step, hide ((hide s).perform step).2 = hide (s.perform step).2
  silent : ∀ s step, silent step = true → hide (s.perform step).2 = hide s

variable {hide : Session ε → Session ε} {silent : SessionStep → Bool} {s t : Session ε}

theorem Conceals.perform_congr (hc : Conceals hide silent) (h : hide s = hide t)
    (step : SessionStep) : hide (s.perform step).2 = hide (t.perform step).2 := by
  rw [← hc.perform s, h, hc.perform]

/-- At the steps that stay, sessions that differ in what is hidden go on to do so. -/
theorem Conceals.forall₂_trace (hc : Conceals hide silent) {script : List Cue}
    (hsilent : ∀ cue ∈ script, cue.stays = false → silent cue.step = true)
    (h : hide s = hide t) :
    List.Forall₂ (fun a b => a.step = b.step ∧ hide a.before = hide b.before)
      (s.trace script) (t.trace (script.filter (·.stays))) := by
  induction script generalizing s t with
  | nil => exact .nil
  | cons cue script ih =>
      have h_rest : ∀ cue ∈ script, cue.stays = false → silent cue.step = true :=
        fun cue h_mem => hsilent cue (List.mem_cons_of_mem _ h_mem)
      cases h_stays : cue.stays with
      | true =>
          rw [List.filter_cons_of_pos h_stays, trace, trace, if_pos h_stays, if_pos h_stays]
          exact .cons ⟨rfl, h⟩ (ih h_rest (hc.perform_congr h cue.step))
      | false =>
          have h_quiet := hc.silent s cue.step (hsilent cue List.mem_cons_self h_stays)
          rw [List.filter_cons_of_neg (by simp [h_stays]), trace, if_neg (by simp [h_stays])]
          exact ih h_rest (h_quiet.trans h)

/-! ## What is hidden -/

/-- A session without its view. The selection and the line followed last go as well, unless
navigation is kept. -/
def hidden (keep : Bool) (s : Session ε) : Session ε :=
  { s with
    view := {}
    selection := if keep then s.selection else none
    follow := { s.follow with lastLine := if keep then s.follow.lastLine else none } }

omit [Editor ε] in
theorem hidden_selectAround (keep : Bool) (s : Session ε) (line : Nat) :
    (s.selectAround line).hidden keep =
      { s with selection := s.outline.enclosing? line }.hidden keep := by
  obtain ⟨view, h⟩ := s.exists_selectAround_eq line
  rw [h]
  rfl

omit [Editor ε] in
theorem hidden_false_hover (s : Session ε) (site : SectionSite) :
    (s.hover site).hidden false = s.hidden false := by
  rcases s.hover_cases site with h | ⟨-, view, h⟩
  · rw [h]
  · rw [h]
    rfl

omit [Editor ε] in
theorem hidden_hover (keep : Bool) (s : Session ε) (site : SectionSite) :
    ((s.hidden keep).hover site).hidden keep = (s.hover site).hidden keep := by
  cases keep with
  | true =>
      by_cases h : s.follows site.line
      · have h' : (s.hidden true).follows site.line := h
        rw [hover, if_pos h', hover, if_pos h, hidden_selectAround, hidden_selectAround]
        rfl
      · have h' : ¬ (s.hidden true).follows site.line := h
        rw [hover, if_neg h', hover, if_neg h]
        rfl
  | false =>
      -- one of the hovers may be followed and the other not
      rw [hidden_false_hover, hidden_false_hover]
      rfl

theorem hidden_activate (keep : Bool) (s : Session ε) (site : SectionSite) :
    ((s.hidden keep).activate site).hidden keep = (s.activate site).hidden keep := by
  rw [activate, activate, hidden_selectAround, hidden_selectAround]
  rfl

theorem hidden_select (keep : Bool) (s : Session ε) (id : NodeId) :
    ((s.hidden keep).select id).hidden keep = (s.select id).hidden keep := by
  cases h : s.outline.get? id with
  | none =>
      have h' : (s.hidden keep).outline.get? id = none := h
      rw [select_of_none h, select_of_none h']
      cases keep with
      | _ => rfl
  | some node =>
      have h' : (s.hidden keep).outline.get? id = some node := h
      rw [select_of_some h, select_of_some h']
      cases keep with
      | _ => rfl

theorem hidden_followCursor (keep : Bool) (s : Session ε) :
    (s.hidden keep).followCursor.hidden keep = s.followCursor.hidden keep := by
  by_cases h : s.cursorMoved
  · have h' : (s.hidden keep).cursorMoved := h
    rw [followCursor, if_pos h', followCursor, if_pos h]
    cases keep with
    | _ => rfl
  · have h' : ¬ (s.hidden keep).cursorMoved := h
    rw [followCursor, if_neg h', followCursor, if_neg h]
    cases keep with
    | _ => rfl

theorem conceals_hidden (keep : Bool) :
    Conceals (hidden (ε := ε) keep) fun step => (step.isHover && !keep) || step.isView where
  perform s step := by
    cases step with
    | event event =>
        cases event with
        | hover site => exact s.hidden_hover keep site
        | activate site => exact s.hidden_activate keep site
    | select id => exact s.hidden_select keep id
    | selectPath path =>
        cases h : s.outline.find? path with
        | none =>
            rw [perform_selectPath_of_none h, perform_selectPath_of_none (s := s.hidden keep) h]
            cases keep with
            | _ => rfl
        | some id =>
            rw [perform_selectPath_of_some h, perform_selectPath_of_some (s := s.hidden keep) h]
            exact s.hidden_select keep id
    | followCursor => exact s.hidden_followCursor keep
    | _ =>
        cases keep with
        | _ => rfl
  silent s step h := by
    cases step with
    | event event =>
        cases event with
        | hover site =>
            cases keep with
            | true => cases h
            | false => exact s.hidden_false_hover site
        | activate site => cases h
    | view step => rfl
    | _ => cases h

/-! ## Answers -/

theorem answer_hidden (keep : Bool) (s : Session ε) {step : SessionStep}
    (h : step.isLook = false) : ((s.hidden keep).perform step).1 = (s.perform step).1 := by
  cases step with
  | view step => cases h
  | describe => cases h
  | selectPath path =>
      cases h : s.outline.find? path with
      | none =>
          rw [perform_selectPath_of_none h, perform_selectPath_of_none (s := s.hidden keep) h]
      | some id =>
          rw [perform_selectPath_of_some h, perform_selectPath_of_some (s := s.hidden keep) h]
  | _ => rfl

end Session

namespace Moment

variable {a b : Moment ε}

theorem after_hidden {keep : Bool} (hstep : a.step = b.step)
    (h : a.before.hidden keep = b.before.hidden keep) :
    a.after.hidden keep = b.after.hidden keep := by
  rw [after, after, ← hstep]
  exact (Session.conceals_hidden keep).perform_congr h a.step

theorem sameOutside_of_hidden {keep : Bool} (hstep : a.step = b.step)
    (h : a.before.hidden keep = b.before.hidden keep) : a.SameOutside b := by
  have h_after := after_hidden hstep h
  refine ⟨hstep, congrArg (·.editor) h_after, congrArg (·.cursorLine) h_after,
    congrArg (·.link) h_after, ?_⟩
  intro h_look
  rw [answer, answer, ← hstep, ← a.before.answer_hidden keep h_look, h,
    b.before.answer_hidden keep h_look]

theorem sameNavigation_of_hidden (hstep : a.step = b.step)
    (h : a.before.hidden true = b.before.hidden true) : a.SameNavigation b := by
  have h_after := after_hidden hstep h
  exact ⟨hstep, congrArg (·.selection) h_after, congrArg (·.follow) h_after⟩

end Moment

/-- Leaving hovers and view steps out of a script makes no difference to the editor, the
cursor line and the link at the steps that stay, nor to what these steps answer, unless they
ask what the reader sees. Leaving out view steps makes no difference either to what is
selected and followed. -/
theorem Session.trace_filter_stays (s : Session ε) {script : List Cue}
    (h : ∀ cue ∈ script, cue.stays = false → cue.step.isHover = true ∨ cue.step.isView = true) :
    List.Forall₂ Moment.SameOutside (s.trace script) (s.trace (script.filter (·.stays))) ∧
      ((∀ cue ∈ script, cue.stays = false → cue.step.isView = true) →
        List.Forall₂ Moment.SameNavigation (s.trace script)
          (s.trace (script.filter (·.stays)))) := by
  constructor
  · have h_silent : ∀ cue ∈ script, cue.stays = false →
        (cue.step.isHover && !false || cue.step.isView) = true := by
      intro cue h_mem h_out
      rw [Bool.not_false, Bool.and_true, Bool.or_eq_true]
      exact h cue h_mem h_out
    refine ((conceals_hidden false).forall₂_trace h_silent rfl).imp ?_
    rintro a b ⟨h_step, h_before⟩
    exact Moment.sameOutside_of_hidden h_step h_before
  · intro h_view
    have h_silent : ∀ cue ∈ script, cue.stays = false →
        (cue.step.isHover && !true || cue.step.isView) = true := by
      intro cue h_mem h_out
      rw [h_view cue h_mem h_out, Bool.or_true]
    refine ((conceals_hidden true).forall₂_trace h_silent rfl).imp ?_
    rintro a b ⟨h_step, h_before⟩
    exact Moment.sameNavigation_of_hidden h_step h_before

/-- A hover and a filter are left out around an activation; both would have shown. -/
theorem Session.trace_filter_stays_hover_and_filter :
    ∃ (s : Session Notepad) (script : List Cue),
      s.Reachable "M(\"A\");\nM(\"A/B\");\n" {} { marker := "M" } ∧
        script =
          [⟨.event (.hover ⟨"demo", 2, "A/B"⟩), false⟩, ⟨.place ⟨2, 1⟩, true⟩,
            ⟨.followCursor, true⟩, ⟨.view (.filterBy "B"), false⟩,
            ⟨.event (.activate ⟨"demo", 1, "A"⟩), true⟩, ⟨.takeFocus, true⟩] ∧
        (∀ cue ∈ script, cue.stays = false →
          cue.step.isHover = true ∨ cue.step.isView = true) ∧
        (s.trace script).length = 4 ∧
        List.Forall₂ Moment.SameOutside (s.trace script)
          (s.trace (script.filter (·.stays))) := by
  have h_start : Session.Reachable "M(\"A\");\nM(\"A/B\");\n" ({} : Notepad) { marker := "M" }
      (Session.start (TaggedSource.parse ⟨"M", by decide⟩ "M(\"A\");\nM(\"A/B\");\n") {}
        { marker := "M" }) := .start rfl
  have h_script : ∀ cue ∈ ([⟨.event (.hover ⟨"demo", 2, "A/B"⟩), false⟩,
      ⟨.place ⟨2, 1⟩, true⟩, ⟨.followCursor, true⟩, ⟨.view (.filterBy "B"), false⟩,
      ⟨.event (.activate ⟨"demo", 1, "A"⟩), true⟩, ⟨.takeFocus, true⟩] : List Cue),
      cue.stays = false → cue.step.isHover = true ∨ cue.step.isView = true := by decide
  exact ⟨_, _, h_start, rfl, h_script, rfl, (Session.trace_filter_stays _ h_script).1⟩

end Showcase
