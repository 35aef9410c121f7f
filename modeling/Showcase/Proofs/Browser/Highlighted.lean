import Showcase.Browser.Step
import Showcase.Proofs.Editor.Highlight
import Showcase.Proofs.Session.CursorMoves
import Showcase.Proofs.Source.WellFormed

/-!
# The highlighted lines of a browser

When a browser is opened the code pane is told the lines of all tags, and it keeps a list of its
own. The source is asked about the same lines and looks them up among its tags. The answers
agree when the browser is opened, and they go on agreeing because neither list changes.

Whatever the user does in a browser comes to steps of its session and of the pane in it.
`s.LeadsTo t` says that such steps lead from one session to another, none of them telling the
pane which lines to highlight. Every part of a frame has a lemma on it. What these steps keep is
then kept by all that a browser does.
-/

namespace Showcase

namespace Session

/-- `s.LeadsTo t` says that the session `s` becomes `t` by steps of its own and of its pane, none
of which says which lines to highlight. -/
inductive LeadsTo (s : Session CodePane) : Session CodePane → Prop
  | refl : LeadsTo s s
  | perform {t : Session CodePane} (h : s.LeadsTo t) (step : SessionStep) :
    LeadsTo s (t.perform step).2
  | changePane {t : Session CodePane} (h : s.LeadsTo t) (step : PaneStep)
    (h_step : step.highlights = false) : LeadsTo s { t with editor := t.editor.perform step }

variable {s t u : Session CodePane}

theorem LeadsTo.trans (hst : s.LeadsTo t) (htu : t.LeadsTo u) : s.LeadsTo u := by
  induction htu with
  | refl => exact hst
  | perform _ step ih => exact ih.perform step
  | changePane _ step h_step ih => exact ih.changePane step h_step

theorem LeadsTo.subject_eq (h : s.LeadsTo t) : t.subject = s.subject := by
  induction h with
  | refl => rfl
  | perform _ step ih => rw [subject_perform, ih]
  | changePane _ _ _ ih => exact ih

/-! ## What is highlighted -/

theorem highlighted_activate (s : Session CodePane) (site : SectionSite) :
    (s.activate site).editor.highlighted = s.editor.highlighted := by
  rw [activate, editor_selectAround]
  rfl

theorem highlighted_select (s : Session CodePane) (id : NodeId) :
    (s.select id).editor.highlighted = s.editor.highlighted := by
  rw [select]
  split
  · rfl
  · rfl

theorem highlighted_perform (s : Session CodePane) (step : SessionStep) :
    (s.perform step).2.editor.highlighted = s.editor.highlighted := by
  cases step with
  | event event =>
      cases event with
      | activate site => exact s.highlighted_activate site
      | hover site => exact congrArg CodePane.highlighted (s.editor_hover site)
  | select id => exact s.highlighted_select id
  | selectPath path =>
      rw [perform]
      split
      · exact s.highlighted_select _
      · rfl
  | followCursor =>
      show s.followCursor.editor.highlighted = _
      rw [followCursor]
      split
      · rfl
      · rfl
  | _ => rfl

theorem LeadsTo.highlighted_eq (h : s.LeadsTo t) :
    t.editor.highlighted = s.editor.highlighted := by
  induction h with
  | refl => rfl
  | perform _ step ih => rw [highlighted_perform, ih]
  | @changePane t _ step h_step ih => exact (t.editor.highlighted_perform h_step).trans ih

end Session

open Session (LeadsTo)

/-! ## The parts of a frame -/

namespace Frame

variable (f : Frame) (disk : Disk) (g : Gesture)

/-- Whether steps lead from the session of one frame to that of another. -/
def Leads (f f' : Frame) : Prop :=
  f.browser.session.LeadsTo f'.browser.session

theorem leads_menu : f.Leads (f.menu g) := by
  unfold menu
  dsimp only
  split
  · exact .refl
  · exact .refl
  · exact .refl
  · exact .refl

theorem leads_foldl_report {f f' : Frame} (h : f.Leads f') (reports : List Report) :
    f.Leads (reports.foldl report f') := by
  induction reports generalizing f' with
  | nil => exact h
  | cons r reports ih =>
      apply ih
      cases r with
      | event e => exact LeadsTo.perform h (.event e)
      | note entry => exact h

theorem leads_demos : f.Leads (f.demos g) := by
  apply leads_foldl_report
  exact LeadsTo.refl

theorem leads_focus : f.Leads f.focus :=
  LeadsTo.refl.perform .takeFocus

theorem leads_save : f.Leads (f.save disk) := by
  unfold save
  dsimp only
  split
  · exact .refl
  · split
    · exact LeadsTo.refl.changePane (.save true) rfl
    · exact LeadsTo.refl.changePane (.save false) rfl

theorem leads_toolbar : f.Leads (f.toolbar disk g) := by
  unfold toolbar
  dsimp only
  split
  · exact LeadsTo.refl.perform (.setFollowing _)
  · exact .refl
  · exact LeadsTo.refl.changePane (.setEditMode _) rfl
  · split
    · exact f.leads_save disk
    · exact .refl
  · exact .refl

theorem leads_searchBar : f.Leads (f.searchBar g) := by
  unfold searchBar
  split
  · exact LeadsTo.refl.perform (.view (.filterBy _))
  · exact LeadsTo.refl.perform (.view (.filterBy _))
  · exact LeadsTo.refl.perform (.view .expandAll)
  · exact LeadsTo.refl.perform (.view .collapseAll)
  · exact .refl

theorem leads_outline : f.Leads (f.outline g) := by
  have h_scroll : f.Leads (f.changeView fun v => v.takeScroll.2) :=
    LeadsTo.refl.perform (.view .takeScroll)
  unfold outline
  split
  · exact .refl
  · dsimp only
    split
    · split
      · split
        · exact LeadsTo.perform h_scroll (.view (.toggle _))
        · exact h_scroll
      · exact h_scroll
    · split
      · exact LeadsTo.perform h_scroll (.select _)
      · exact h_scroll
    · exact h_scroll

theorem leads_code : f.Leads (f.code g) := by
  have h_draw : f.Leads (f.changePane (·.perform .draw)) :=
    LeadsTo.refl.changePane .draw rfl
  unfold code
  dsimp only
  split
  · split
    · exact LeadsTo.changePane h_draw (.edit _) rfl
    · exact h_draw
  · split
    · exact (LeadsTo.changePane h_draw (.click _) rfl).perform .followCursor
    · exact h_draw
  · exact h_draw

theorem leads_codeWindow : f.Leads (f.codeWindow disk g) := by
  have h_contents : f.Leads ((((f.focus.toolbar disk g).searchBar g).outline g).code g) :=
    (((f.leads_focus.trans (leads_toolbar _ disk g)).trans (leads_searchBar _ g)).trans
      (leads_outline _ g)).trans (leads_code _ g)
  unfold codeWindow
  dsimp only
  split
  · split
    · exact h_contents
    · exact h_contents
  · exact f.leads_focus

theorem leads_readme : f.Leads (f.readme g) := by
  rw [readme]
  split
  · exact .refl
  · exact .refl

end Frame

/-! ## Steps and runs of the browser -/

namespace Browser

variable (b : Browser) (disk : Disk)

theorem leadsTo_frame (g : Gesture) : b.session.LeadsTo (b.frame disk g).browser.session :=
  (((Frame.leads_menu ⟨b, [], [], []⟩ g).trans (Frame.leads_demos _ g)).trans
    (Frame.leads_codeWindow _ disk g)).trans (Frame.leads_readme _ g)

theorem leadsTo_moveTo (p : Progress) (pointer : Option Target) :
    p.browser.session.LeadsTo (p.moveTo disk pointer).browser.session :=
  leadsTo_frame { p.browser with pointer } disk .idle

theorem leadsTo_attempt {target : Target} {act : Progress → BrowserAnswer × Progress}
    (h : ∀ p : Progress, p.browser.session.LeadsTo (act p).2.browser.session) :
    b.session.LeadsTo (b.attempt disk target act).2.browser.session := by
  have h_draw := b.leadsTo_frame disk .idle
  unfold attempt
  dsimp only
  split
  · exact h_draw.trans (h ((Progress.mk b [] []).draw disk).2)
  · exact h_draw

theorem leadsTo_perform (step : BrowserStep) :
    b.session.LeadsTo (b.perform disk step).2.browser.session := by
  cases step with
  | session step => exact LeadsTo.refl.perform step
  | frame => exact b.leadsTo_frame disk .idle
  | look part => exact b.leadsTo_frame disk .idle
  | press target => exact b.leadsTo_attempt disk fun p => p.browser.leadsTo_frame disk _
  | type target text erase =>
      refine b.leadsTo_attempt disk fun p => (p.browser.leadsTo_frame disk .idle).trans ?_
      exact (p.draw disk).2.browser.leadsTo_frame disk _
  | slide index value =>
      exact b.leadsTo_attempt disk fun p => p.browser.leadsTo_frame disk _
  | point title =>
      cases title with
      | none =>
          exact (b.leadsTo_frame disk .idle).trans
            (leadsTo_moveTo disk ((Progress.mk b [] []).draw disk).2 none)
      | some title => exact b.leadsTo_attempt disk fun p => leadsTo_moveTo disk p _
  | pointAt target =>
      refine b.leadsTo_attempt disk fun p => (leadsTo_moveTo disk p (some target)).trans ?_
      exact (p.moveTo disk (some target)).browser.leadsTo_frame disk .idle
  | _ => exact .refl

/-- The browser after some steps, each of them with the disk by then. -/
def run (b : Browser) (steps : List (Disk × BrowserStep)) : Browser :=
  steps.foldl (fun b turn => (b.perform turn.1 turn.2).2.browser) b

theorem leadsTo_run (steps : List (Disk × BrowserStep)) :
    b.session.LeadsTo (b.run steps).session := by
  induction steps generalizing b with
  | nil => exact .refl
  | cons turn steps ih => exact (b.leadsTo_perform turn.1 turn.2).trans (ih _)

/-- What the pane of a browser says of a line is what it said when the browser was opened. -/
theorem isHighlighted_run_eq (steps : List (Disk × BrowserStep)) (line : Nat) :
    (b.run steps).session.editor.isHighlighted line = b.session.editor.isHighlighted line := by
  rw [CodePane.isHighlighted, CodePane.isHighlighted, (b.leadsTo_run steps).highlighted_eq]

end Browser

/-- The pane of a browser highlights the lines that its source has tags on. Whatever happened in
the session before the browser was opened over it, and whatever happens in the browser later, the
two answer alike for every line, and both answer that there is a tag exactly if there is one. -/
theorem Browser.isHighlighted_run {text : String} {pane : CodePane} {options : Options}
    {first : Session CodePane} (h : Session.ofText text pane options = .ok first)
    (turns : List (Turn CodePane)) (readme : String) (steps : List (Disk × BrowserStep))
    (line : Nat) :
    let b := (ofSession (first.play turns) readme).run steps
    b.session.editor.isHighlighted line = b.session.source.isTagged line ∧
      (b.session.source.isTagged line = true ↔ ∃ tag ∈ b.session.source.tags, tag.line = line) ∧
      ∃ marker, Marker.ofText options.marker = .ok marker ∧
        b.session.source = TaggedSource.parse marker text := by
  intro b
  obtain ⟨marker, h_marker, h_start⟩ := Session.ofText_eq_ok h
  have h_kept : b.session.source = (first.play turns).source :=
    congrArg (·.1) (leadsTo_run _ steps).subject_eq
  have h_source : b.session.source = TaggedSource.parse marker text := by
    rw [h_kept, Session.source_play, h_start]
    rfl
  have h_tags : b.session.source.tags.Pairwise fun a b => a.line ≤ b.line := by
    rw [h_source]
    exact TaggedSource.pairwise_filterMap_scanLines Marker.Finding.tag?
      (fun _ _ _ => Marker.Finding.line_of_tag?) marker 1 _
  have h_tagged := TaggedSource.isTagged_iff_of_pairwise h_tags line
  have h_highlighted : b.session.editor.isHighlighted line = true ↔
      ∃ tag ∈ b.session.source.tags, tag.line = line := by
    rw [isHighlighted_run_eq, h_kept, ← List.mem_map]
    exact CodePane.isHighlighted_highlight _ _ line
  exact ⟨Bool.eq_iff_iff.2 (h_highlighted.trans h_tagged.symm), h_tagged, marker, h_marker,
    h_source⟩

/-- Two tags on the first line and a blank one on the third; the pane is put into edit mode and the
session gets another text, on any disk. -/
theorem Browser.isHighlighted_run_two_tags :
    ∃ (text : String) (first : Session CodePane),
      text = "M(\"A\"); M(\"B\");\n\nM(\" \");\nM(\"C\");\n" ∧
        Session.ofText text {} { marker := "M" } = .ok first ∧
        ∀ disk,
          let b := (ofSession (first.play []) "").run
            [(disk, .press .edit), (disk, .session (.replaceText "x"))]
          ∀ line, b.session.editor.isHighlighted line = true ↔ line = 1 ∨ line = 4 := by
  let text := "M(\"A\"); M(\"B\");\n\nM(\" \");\nM(\"C\");\n"
  have h_marker : Marker.ofText "M" = .ok ⟨"M", by decide⟩ := rfl
  have h_first : Session.ofText text ({} : CodePane) { marker := "M" } =
      .ok (Session.start (TaggedSource.parse ⟨"M", by decide⟩ text) {} { marker := "M" }) := rfl
  have h_tags : (TaggedSource.parse ⟨"M", by decide⟩ text).tags =
      [⟨1, "A"⟩, ⟨1, "B"⟩, ⟨4, "C"⟩] := by decide +kernel
  refine ⟨text, _, rfl, h_first, fun disk line => ?_⟩
  obtain ⟨h_same, h_tagged, marker, h_eq, h_source⟩ := Browser.isHighlighted_run h_first [] ""
    [(disk, .press .edit), (disk, .session (.replaceText "x"))] line
  obtain rfl := Except.ok.inj (h_marker.symm.trans h_eq)
  rw [h_same, h_tagged, h_source, h_tags]
  simp [eq_comm]

end Showcase
