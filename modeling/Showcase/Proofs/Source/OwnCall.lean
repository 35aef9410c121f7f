import Showcase.Proofs.Source.Written

/-!
# The call made of a marker's own name

A line that holds nothing but the name of a marker and a literal in parentheses is the
plainest call there is, and the marker finds it whatever punctuation the name is made of,
with one exception. A name that starts with a letter or a number is looked for at word
boundaries only, and there is a boundary at the start of a line only if the first
character is a word character. `ClassesAgree` says that the first character does not tell
the two classes apart. All ASCII characters keep to this, but `²` is a number and no word
character. With such a name the line has no call at its start; a call may still be found
further on, inside the literal, but then no complete literal is left behind its parenthesis.
-/

namespace Showcase

namespace Marker

/-- The first character of the name is a word character if it is a letter or a number. -/
def ClassesAgree (m : Marker) : Prop :=
  ∀ c ∈ m.name.toList.head?, Text.isAlphanumeric c = true → Text.isWordChar c = true

/-- The line of a call with the given literal and nothing else. -/
def ownLine (m : Marker) (tag : List Char) : List Char :=
  m.name.toList ++ '(' :: '"' :: (tag ++ ['"', ')'])

variable {m : Marker}

/-! ## Where a name can start -/

/-- The two classes are one as far as ASCII goes, up to the underscore. -/
theorem classesAgree_of_ascii (h : ∀ c ∈ m.name.toList.head?, c.toNat < 0x80) :
    m.ClassesAgree := by
  intro c hc h_alphanumeric
  rw [Text.isAlphanumeric, if_pos (h c hc)] at h_alphanumeric
  rw [Text.isWordChar, if_pos (h c hc), h_alphanumeric, Bool.true_or]

/-- A name that needs a boundary finds one at the start of a line exactly if the classes
agree on its first character. -/
theorem classesAgree_iff :
    m.ClassesAgree ↔
      (m.startsWord = true → Text.isWordBoundary none m.name.toList.head? = true) := by
  have h_underscore : Text.isWordChar '_' = true := by decide
  rw [ClassesAgree, startsWord]
  cases m.name.toList.head? with
  | none => simp
  | some c =>
      simp only [Option.mem_def, Option.some_inj, forall_eq', Option.any_some, Bool.or_eq_true,
        beq_iff_eq, Text.isWordBoundary, Option.any_none, Bool.false_bne]
      constructor
      · intro h_agree h_start
        cases h_start with
        | inl h_alphanumeric => exact h_agree h_alphanumeric
        | inr h_eq => rw [h_eq, h_underscore]
      · intro h_boundary h_alphanumeric
        exact h_boundary (.inl h_alphanumeric)

/-! ## The call at the start of the line -/

theorem name_of_ofText {text : String} (h : ofText text = .ok m) : Text.trim text = m.name := by
  rw [ofText] at h
  split at h
  · cases h
  · exact congrArg Marker.name (Except.ok.inj h)

theorem head?_name_append (m : Marker) (cs : List Char) :
    (m.name.toList ++ cs).head? = m.name.toList.head? := by
  have h_ne : m.name.toList ≠ [] := fun h => m.name_ne_empty (String.toList_eq_nil_iff.1 h)
  rw [List.head?_append_of_ne_nil _ h_ne]

/-- A line that starts with the name and a parenthesis starts with a call exactly if the
classes agree. -/
theorem callHere?_name_iff (cs rest : List Char) :
    m.callHere? none (m.name.toList ++ '(' :: cs) = some rest ↔ m.ClassesAgree ∧ rest = cs := by
  rw [callHere?_eq_some_iff, head?_name_append, ← classesAgree_iff]
  refine and_congr_right fun _ => ?_
  constructor
  · intro h_call
    obtain ⟨blanks, h_blanks, h_cs⟩ := h_call
    have h_tail : '(' :: cs = blanks ++ '(' :: rest := List.append_cancel_left h_cs
    cases blanks with
    | nil => exact ((List.cons_inj_right _).1 h_tail).symm
    | cons b blanks =>
        obtain ⟨rfl, -⟩ := List.cons.inj h_tail
        exact absurd (h_blanks '(' List.mem_cons_self) (by decide)
  · intro h_eq
    exact ⟨[], by simp, by rw [h_eq, List.nil_append]⟩

theorem nextCall?_name (h_agree : m.ClassesAgree) (cs : List Char) :
    m.nextCall? none (m.name.toList ++ '(' :: cs) = some cs := by
  have h_here : m.callHere? none (m.name.toList ++ '(' :: cs) = some cs :=
    (callHere?_name_iff cs cs).2 ⟨h_agree, rfl⟩
  cases h_line : m.name.toList ++ '(' :: cs with
  | nil => simp at h_line
  | cons c line =>
      rw [h_line] at h_here
      rw [nextCall?, h_here]

/-- Where the classes do not agree, a call of the line starts behind the first one, and so
less of the line is behind its parenthesis. -/
theorem suffix_of_nextCall?_name (h_agree : ¬m.ClassesAgree) {c : Char} {cs rest : List Char}
    (h : m.nextCall? none (m.name.toList ++ '(' :: c :: cs) = some rest) : rest <:+ cs := by
  obtain ⟨passed, here, h_line, h_call⟩ := exists_of_nextCall? h
  obtain ⟨-, blanks, -, rfl⟩ := callHere?_eq_some_iff.1 h_call
  have h_passed : passed ≠ [] := by
    rintro rfl
    rw [← List.nil_append (m.name.toList ++ _), ← h_line] at h_call
    exact h_agree ((callHere?_name_iff _ _).1 h_call).1
  have h_length : rest.length ≤ cs.length := by
    have h_lengths := congrArg List.length h_line
    have h_pos : 0 < passed.length := List.length_pos_iff.2 h_passed
    simp only [List.length_append, List.length_cons] at h_lengths
    omega
  have h_cs : cs <:+ m.name.toList ++ '(' :: c :: cs := ⟨m.name.toList ++ ['(', c], by simp⟩
  exact List.suffix_of_suffix_length_le (suffix_behind_nextCall? h) h_cs h_length

/-! ## Too few quotes for a literal -/

theorem two_le_count_of_scanArguments {cs text rest : List Char}
    (h : scanArguments 0 cs = .tag text rest) : 2 ≤ cs.count '"' := by
  obtain ⟨read, ⟨argument, items, -, -, rfl, -⟩, rfl⟩ := scanArguments_eq_tag_iff.1 h
  simp only [List.count_append, List.count_cons_self]
  omega

/-- A line whose calls have no more than one quote behind them has no tag. -/
theorem eq_unterminated_of_mem_scanFrom {before : Option Char} {cs : List Char}
    (h : ∀ rest, m.nextCall? before cs = some rest → rest.count '"' ≤ 1) :
    ∀ f ∈ m.scanFrom before cs, f = .unterminated := by
  fun_induction m.scanFrom before cs with
  | case1 => exact fun _ hf => absurd hf List.not_mem_nil
  | case2 before cs rest h_next text rest' h_tag ih =>
      have h_two := two_le_count_of_scanArguments h_tag
      have h_one := h rest h_next
      omega
  | case3 before cs rest h_next _ ih =>
      refine ih fun rest' h_next' => ?_
      have h_le : rest'.count '"' ≤ rest.count '"' :=
        (suffix_behind_nextCall? h_next').sublist.count_le _
      exact h_le.trans (h rest h_next)
  | case4 => exact fun _ hf => List.mem_singleton.1 hf

/-! ## The line -/

theorem escape_eq_self {tag : List Char} (h : ∀ c ∈ tag, c ≠ '"' ∧ c ≠ '\\') :
    escape tag = tag := by
  induction tag with
  | nil => rfl
  | cons c cs ih =>
      obtain ⟨h_quote, h_slash⟩ := h c List.mem_cons_self
      rw [escape, if_neg (not_or.2 ⟨h_quote, h_slash⟩),
        ih fun d hd => h d (List.mem_cons_of_mem c hd)]

theorem scanLine_ownLine (h_agree : m.ClassesAgree) {tag : List Char}
    (h : ∀ c ∈ tag, c ≠ '"' ∧ c ≠ '\\') : m.scanLine (m.ownLine tag) = [.tag tag] := by
  have h_literal : scanLiteral? (tag ++ ['"', ')']) = some (tag, [')']) := by
    have h_read := scanLiteral?_escape tag [')']
    rwa [escape_eq_self h] at h_read
  have h_behind : m.scanFrom (some '"') [')'] = [] := scanFrom_of_not_mem (by decide)
  rw [scanLine, ownLine, scanFrom_eq, nextCall?_name h_agree]
  simp only [scanArguments, h_literal, h_behind]

theorem eq_unterminated_of_mem_scanLine_ownLine (h_agree : ¬m.ClassesAgree) {tag : List Char}
    (h : ∀ c ∈ tag, c ≠ '"' ∧ c ≠ '\\') :
    ∀ f ∈ m.scanLine (m.ownLine tag), f = .unterminated := by
  refine eq_unterminated_of_mem_scanFrom fun rest h_next => ?_
  have h_tag : tag.count '"' = 0 := List.count_eq_zero.2 fun h_mem => (h _ h_mem).1 rfl
  calc rest.count '"' ≤ (tag ++ ['"', ')']).count '"' :=
      (suffix_of_nextCall?_name h_agree h_next).sublist.count_le _
    _ = 1 := by rw [List.count_append, h_tag]; rfl

end Marker

namespace TaggedSource

open Marker (ownLine)

theorem scanLines_ownLine {m : Marker} {tag : List Char} (hname : '\n' ∉ m.name.toList)
    (htag : '\n' ∉ tag) :
    m.scanLines 1 (Text.lines (m.ownLine tag)) = (m.scanLine (m.ownLine tag)).map (1, ·) := by
  have h_mem : '\n' ∉ m.ownLine tag := by simp [ownLine, hname, htag]
  have h_ne : m.ownLine tag ≠ [] := by simp [ownLine]
  rw [Text.lines_of_not_mem h_mem h_ne, Marker.scanLines, Marker.scanLines, List.append_nil]

/-- An accepted marker finds its own call on a line of its own if the classes agree on the
first character of its name, and finds no tag there if they do not. -/
theorem parse_own_call {text tag : String} {m : Marker} (hm : Marker.ofText text = .ok m)
    (hname : '\n' ∉ (Text.trim text).toList) (hblank : Text.isBlankText tag.toList = false)
    (hplain : ∀ c ∈ tag.toList, c ≠ '\n' ∧ c ≠ '\\' ∧ c ≠ '"') :
    let source := parse m (Text.trim text ++ "(\"" ++ tag ++ "\")")
    (m.ClassesAgree → source.tags = [⟨1, tag⟩] ∧ source.warnings = []) ∧
      (¬m.ClassesAgree → source.tags = []) := by
  rw [Marker.name_of_ofText hm] at hname ⊢
  have h_line : (m.name ++ "(\"" ++ tag ++ "\")").toList = m.ownLine tag.toList := by
    simp [ownLine]
  have h_lineFeed : '\n' ∉ tag.toList := fun h => (hplain _ h).1 rfl
  have h_literal : ∀ c ∈ tag.toList, c ≠ '"' ∧ c ≠ '\\' := fun c hc =>
    ⟨(hplain c hc).2.2, (hplain c hc).2.1⟩
  simp only [parse, h_line, scanLines_ownLine hname h_lineFeed]
  constructor
  · intro h_agree
    rw [Marker.scanLine_ownLine h_agree h_literal]
    simp [Marker.Finding.tag?, Marker.Finding.warning?, hblank]
  · intro h_agree
    have h_open := Marker.eq_unterminated_of_mem_scanLine_ownLine h_agree h_literal
    rw [List.filterMap_eq_nil_iff]
    intro f hf
    obtain ⟨g, hg, rfl⟩ := List.mem_map.1 hf
    rw [h_open g hg]
    rfl

theorem parse_own_call_brackets :
    ∃ m, Marker.ofText " tag[\"x\"](+) " = .ok m ∧ m.ClassesAgree ∧
      (parse m "tag[\"x\"](+)(\"A (B)/C\")").tags = [⟨1, "A (B)/C"⟩] ∧
      (parse m "tag[\"x\"](+)(\"A (B)/C\")").warnings = [] := by
  have h_marker : Marker.ofText " tag[\"x\"](+) " = .ok ⟨"tag[\"x\"](+)", by decide⟩ := rfl
  have h_agree : Marker.ClassesAgree ⟨"tag[\"x\"](+)", by decide⟩ :=
    Marker.classesAgree_of_ascii fun c hc => by
      obtain rfl : 't' = c := Option.some.inj hc
      decide
  have h_plain : ∀ c ∈ "A (B)/C".toList, c ≠ '\n' ∧ c ≠ '\\' ∧ c ≠ '"' := by simp
  exact ⟨_, h_marker, h_agree,
    (parse_own_call h_marker (by decide) (by decide) h_plain).1 h_agree⟩

/-- `²` is taken for a letter or a number, but there is no word boundary before it. -/
theorem parse_own_call_superscript :
    ∃ m, Marker.ofText "²" = .ok m ∧ (parse m "²(\"A\")").tags = [] ∧
      (parse m "²(\"A\")").warnings = [] :=
  ⟨⟨"²", by decide⟩, rfl, by decide +kernel, by decide +kernel⟩

end TaggedSource

end Showcase
