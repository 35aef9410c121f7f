import Mathlib.Data.List.TakeWhile
import Showcase.Proofs.Source.Argument
import Showcase.Source.Tagged

/-!
# Scanning

How the findings of a text are put together. What is left behind a call is an end of what was
scanned, with the parenthesis in front of it. The scan of a line is described by one
equation, which says what its next call gives and where it goes on. The scan of consecutive
lines is described by the line numbers it gives out: they start at the first line's number
and stay below the number behind the last line.
-/

namespace Showcase

/-- A text without its leading blanks starts with a character that is no blank exactly if
nothing but blanks stands before that character. -/
theorem Text.dropBlanks_eq_cons_iff {c : Char} {cs rest : List Char} (hc : Text.isBlank c = false) :
    Text.dropBlanks cs = c :: rest ↔
      ∃ blanks, (∀ b ∈ blanks, Text.isBlank b = true) ∧ cs = blanks ++ c :: rest := by
  constructor
  · intro h
    refine ⟨cs.takeWhile Text.isBlank, fun b hb => List.mem_takeWhile_imp hb, ?_⟩
    rw [← h]
    exact List.takeWhile_append_dropWhile.symm
  · rintro ⟨blanks, h_blanks, rfl⟩
    rw [Text.dropBlanks, List.dropWhile_append_of_pos h_blanks]
    exact List.dropWhile_cons_of_neg (by simp [hc])

namespace Marker

/-- A call is the name at a word boundary if it needs one, blanks, and a parenthesis. -/
theorem callHere?_eq_some_iff {m : Marker} {before : Option Char} {cs rest : List Char} :
    m.callHere? before cs = some rest ↔
      (m.startsWord = true → Text.isWordBoundary before cs.head? = true) ∧
        ∃ blanks, (∀ b ∈ blanks, Text.isBlank b = true) ∧
          cs = m.name.toList ++ (blanks ++ '(' :: rest) := by
  have h_open : Text.isBlank '(' = false := by decide
  rw [callHere?]
  cases h_boundary : m.startsWord && !Text.isWordBoundary before cs.head? with
  | true =>
      rw [Bool.and_eq_true, Bool.not_eq_true'] at h_boundary
      simp [h_boundary.1, h_boundary.2]
  | false =>
      have h_word : m.startsWord = true → Text.isWordBoundary before cs.head? = true := by
        simpa using h_boundary
      rw [if_neg Bool.false_ne_true, and_iff_right h_word]
      cases h_after : Text.after? m.name.toList cs with
      | none =>
          refine iff_of_false nofun ?_
          rintro ⟨blanks, -, h_cs⟩
          rw [Text.after?_eq_some_iff.2 h_cs] at h_after
          cases h_after
      | some r =>
          obtain rfl := Text.after?_eq_some_iff.1 h_after
          simp only [List.append_cancel_left_eq, ← Text.dropBlanks_eq_cons_iff h_open]
          split
          · rename_i h_paren
            rw [h_paren, Option.some_inj, List.cons_inj_right]
          · rename_i h_not
            exact iff_of_false nofun (h_not rest)

/-- The next call is a call behind what is passed. -/
theorem exists_of_nextCall? {m : Marker} {before : Option Char} {cs rest : List Char}
    (h : m.nextCall? before cs = some rest) :
    ∃ passed here, cs = passed ++ here ∧
      m.callHere? (passed.getLast?.or before) here = some rest := by
  induction cs generalizing before with
  | nil => cases h
  | cons c cs ih =>
      rw [nextCall?] at h
      cases h_here : m.callHere? before (c :: cs) with
      | some r =>
          rw [h_here] at h
          obtain rfl := Option.some.inj h
          exact ⟨[], c :: cs, rfl, h_here⟩
      | none =>
          rw [h_here] at h
          obtain ⟨passed, here, rfl, h_call⟩ := ih h
          have h_before : (c :: passed).getLast?.or before = passed.getLast?.or (some c) := by
            rw [List.getLast?_cons, Option.some_or]
            cases passed.getLast? with
            | none => rfl
            | some d => rfl
          exact ⟨c :: passed, here, rfl, by rw [h_before, h_call]⟩

theorem suffix_of_callHere? {m : Marker} {before : Option Char} {cs rest : List Char}
    (h : m.callHere? before cs = some rest) : '(' :: rest <:+ cs := by
  obtain ⟨-, blanks, -, rfl⟩ := callHere?_eq_some_iff.1 h
  exact (List.suffix_append blanks _).trans (List.suffix_append m.name.toList _)

theorem suffix_of_nextCall? {m : Marker} {before : Option Char} {cs rest : List Char}
    (h : m.nextCall? before cs = some rest) : '(' :: rest <:+ cs := by
  obtain ⟨passed, here, rfl, h_call⟩ := exists_of_nextCall? h
  exact (suffix_of_callHere? h_call).trans (List.suffix_append passed here)

theorem suffix_behind_nextCall? {m : Marker} {before : Option Char} {cs rest : List Char}
    (h : m.nextCall? before cs = some rest) : rest <:+ cs :=
  (List.suffix_cons '(' rest).trans (suffix_of_nextCall? h)

/-- The scan of a line goes from its next call on. -/
theorem scanFrom_eq (m : Marker) (before : Option Char) (cs : List Char) :
    m.scanFrom before cs =
      match m.nextCall? before cs with
      | none => []
      | some rest =>
        match scanArguments 0 rest with
        | .tag text rest' => .tag text :: m.scanFrom (some '"') rest'
        | .untagged => m.scanFrom (some '(') rest
        | .unterminated => [.unterminated] := by
  rw [scanFrom]
  split
  · rename_i h
    rw [h]
  · rename_i rest h
    simp only [h]
    split
    · rename_i ht
      rw [ht]
    · rename_i ht
      rw [ht]
    · rename_i ht
      rw [ht]

/-- Nothing is found where no parenthesis opens. -/
theorem scanFrom_of_not_mem {m : Marker} {before : Option Char} {cs : List Char} (h : '(' ∉ cs) :
    m.scanFrom before cs = [] := by
  rw [scanFrom_eq]
  cases h_next : m.nextCall? before cs with
  | none => rfl
  | some rest => exact absurd ((suffix_of_nextCall? h_next).subset List.mem_cons_self) h

/-- What is before the text and what is passed before the next call do not matter. -/
theorem scanFrom_congr {m : Marker} {before before' : Option Char} {cs cs' : List Char}
    (h : m.nextCall? before cs = m.nextCall? before' cs') :
    m.scanFrom before cs = m.scanFrom before' cs' := by
  rw [scanFrom_eq, scanFrom_eq, h]

theorem scanLines_append (m : Marker) (first : Nat) (ls ls' : List (List Char)) :
    m.scanLines first (ls ++ ls') =
      m.scanLines first ls ++ m.scanLines (first + ls.length) ls' := by
  induction ls generalizing first with
  | nil => rfl
  | cons l ls ih =>
      have h_length : first + 1 + ls.length = first + (l :: ls).length := by
        rw [List.length_cons, Nat.add_assoc, Nat.add_comm 1]
      rw [List.cons_append, scanLines, scanLines, ih, h_length, List.append_assoc]

theorem mem_scanLines {m : Marker} {first : Nat} {ls : List (List Char)} {f : Nat × Finding} :
    f ∈ m.scanLines first ls ↔
      ∃ i l, ls[i]? = some l ∧ f.1 = first + i ∧ f.2 ∈ m.scanLine l := by
  induction ls generalizing first with
  | nil => simp [scanLines]
  | cons l ls ih =>
      rw [scanLines, List.mem_append, List.mem_map, ih]
      constructor
      · rintro (⟨g, hg, rfl⟩ | ⟨i, k, hk, hline, hf⟩)
        · exact ⟨0, l, rfl, rfl, hg⟩
        · exact ⟨i + 1, k, hk, by rw [hline, Nat.add_assoc, Nat.add_comm 1], hf⟩
      · rintro ⟨i, k, hk, hline, hf⟩
        cases i with
        | zero =>
            obtain rfl := Option.some.inj hk
            exact .inl ⟨f.2, hf, Prod.ext hline.symm rfl⟩
        | succ i =>
            exact .inr ⟨i, k, hk, by rw [hline, Nat.add_assoc, Nat.add_comm 1], hf⟩

namespace Finding

variable {f : Finding} {line : Nat}

theorem line_of_tag? {tag : Tag} (h : f.tag? line = some tag) : tag.line = line := by
  cases f with
  | tag text =>
      rw [tag?] at h
      split at h
      · cases h
      · obtain rfl := Option.some.inj h
        rfl
  | unterminated => cases h

theorem line_of_warning? {w : Warning} (h : f.warning? line = some w) : w.line = line := by
  cases f with
  | tag text =>
      rw [warning?] at h
      split at h
      · obtain rfl := Option.some.inj h
        rfl
      · cases h
  | unterminated =>
      obtain rfl := Option.some.inj h
      rfl

end Finding

end Marker

namespace TaggedSource

/-! What findings yield, be it tags or warnings, is told by a function of the line and the
finding, and by the line of what is yielded. -/

/-- What is yielded stands on a line of the source. -/
theorem line_of_mem_filterMap_scanLines {α : Type} (yield : Nat → Marker.Finding → Option α)
    {lineOf : α → Nat} (h : ∀ line f a, yield line f = some a → lineOf a = line)
    {m : Marker} {text : String} {a : α}
    (ha : a ∈ (m.scanLines 1 (Text.lines text.toList)).filterMap fun (line, f) => yield line f) :
    1 ≤ lineOf a ∧ lineOf a ≤ (parse m text).lineCount := by
  obtain ⟨⟨line, f⟩, hf, h_yield⟩ := List.mem_filterMap.1 ha
  obtain ⟨i, l, hl, hline, -⟩ := Marker.mem_scanLines.1 hf
  have hi : i < (Text.lines text.toList).length := (List.getElem?_eq_some_iff.1 hl).1
  have h_line : lineOf a = 1 + i := (h line f a h_yield).trans hline
  rw [h_line, lineCount, text_parse]
  exact ⟨Nat.le_add_right 1 i, by omega⟩

theorem line_of_mem_tags_parse {m : Marker} {text : String} {tag : Tag}
    (h : tag ∈ (parse m text).tags) : 1 ≤ tag.line ∧ tag.line ≤ (parse m text).lineCount :=
  line_of_mem_filterMap_scanLines Marker.Finding.tag?
    (fun _ _ _ => Marker.Finding.line_of_tag?) h

theorem line_of_mem_warnings_parse {m : Marker} {text : String} {w : Warning}
    (h : w ∈ (parse m text).warnings) : 1 ≤ w.line ∧ w.line ≤ (parse m text).lineCount :=
  line_of_mem_filterMap_scanLines Marker.Finding.warning?
    (fun _ _ _ => Marker.Finding.line_of_warning?) h

end TaggedSource

end Showcase
