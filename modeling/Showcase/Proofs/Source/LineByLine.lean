import Showcase.Proofs.Source.Scan
import Showcase.Proofs.Text.Lines

/-!
# Scanning line by line

What a line yields depends on this line alone. Where one line ends and the next begins is less
simple: one carriage return before a line feed belongs to the line end, so a piece of a text
may hold one more as the end of a text of its own than inside a longer one. It makes no
difference, because nothing that is found can end in a carriage return: the scan of a line is
the same with and without one at its end, and an empty line yields nothing. A text can
therefore be scanned as the pieces between its line feeds, and these do not change when
texts are put behind each other, nor when the line ends are written differently.
-/

namespace Showcase

/-! ## A carriage return at the end -/

/-- What a scan comes to when `more` follows that it does not look at. -/
def ArgumentScan.followedBy (more : List Char) : ArgumentScan → ArgumentScan
  | tag text rest => tag text (rest ++ more)
  | untagged => untagged
  | unterminated => unterminated

/-- Where a text is taken apart before a character that is no carriage return, one at the end
stays behind that character. -/
theorem append_return_eq_iff {q : Char} (h : q ≠ '\r') {cs part rest : List Char} :
    cs ++ ['\r'] = part ++ q :: rest ↔
      ∃ rest', rest = rest' ++ ['\r'] ∧ cs = part ++ q :: rest' := by
  constructor
  · intro h_cs
    rcases List.eq_nil_or_concat rest with rfl | ⟨rest, c, rfl⟩
    · exact absurd (List.cons.inj (List.append_inj' h_cs rfl).2).1.symm h
    · have h_split : cs ++ ['\r'] = (part ++ q :: rest) ++ [c] := by simpa using h_cs
      obtain ⟨rfl, h_last⟩ := List.append_inj' h_split rfl
      exact ⟨rest, by rw [h_last, List.concat_eq_append], rfl⟩
  · rintro ⟨rest, rfl, rfl⟩
    rw [List.append_assoc, List.cons_append]

theorem scanLiteral?_append_return (cs : List Char) :
    scanLiteral? (cs ++ ['\r']) =
      (scanLiteral? cs).map fun (text, rest) => (text, rest ++ ['\r']) := by
  have h_quote : '"' ≠ '\r' := by decide
  ext ⟨text, rest⟩
  rw [scanLiteral?_eq_some_iff, Option.map_eq_some_iff]
  constructor
  · rintro ⟨items, h_cs, rfl⟩
    obtain ⟨rest, rfl, rfl⟩ := (append_return_eq_iff h_quote).1 h_cs
    exact ⟨(_, rest), scanLiteral?_eq_some_iff.2 ⟨items, rfl, rfl⟩, rfl⟩
  · rintro ⟨⟨text, rest⟩, h_read, h_eq⟩
    obtain ⟨rfl, rfl⟩ := Prod.mk.inj h_eq
    obtain ⟨items, rfl, rfl⟩ := scanLiteral?_eq_some_iff.1 h_read
    exact ⟨items, (append_return_eq_iff h_quote).2 ⟨rest, rfl, rfl⟩, rfl⟩

theorem scanArguments_append_return (depth : Nat) (cs : List Char) :
    scanArguments depth (cs ++ ['\r']) = (scanArguments depth cs).followedBy ['\r'] := by
  by_cases h_quote : '"' ∈ cs
  · obtain ⟨argument, inside, rfl, h_argument⟩ := List.eq_append_cons_of_mem h_quote
    rw [List.append_assoc, List.cons_append]
    by_cases h_stays : StaysOpen depth argument
    · rw [scanArguments_append_quote h_argument h_stays,
        scanArguments_append_quote h_argument h_stays, scanLiteral?_append_return]
      cases scanLiteral? inside with
      | none => rfl
      | some read => rfl
    · rw [scanArguments_append_of_not_staysOpen h_argument h_stays,
        scanArguments_append_of_not_staysOpen h_argument h_stays]
      rfl
  · have h_return : '"' ∉ cs ++ ['\r'] := by simpa using h_quote
    rw [scanArguments_of_not_mem h_quote, scanArguments_of_not_mem h_return]
    rfl

namespace Marker

theorem callHere?_append_return (m : Marker) (before : Option Char) (cs : List Char) :
    m.callHere? before (cs ++ ['\r']) = (m.callHere? before cs).map (· ++ ['\r']) := by
  have h_open : '(' ≠ '\r' := by decide
  have h_head {rest blanks : List Char} (h : cs = m.name.toList ++ (blanks ++ '(' :: rest)) :
      (cs ++ ['\r']).head? = cs.head? := List.head?_append_of_ne_nil cs (by simp [h])
  ext rest
  rw [callHere?_eq_some_iff, Option.map_eq_some_iff]
  constructor
  · intro ⟨h_word, blanks, h_blanks, h_cs⟩
    rw [← List.append_assoc, append_return_eq_iff h_open] at h_cs
    obtain ⟨rest, rfl, h_cs⟩ := h_cs
    rw [List.append_assoc] at h_cs
    rw [h_head h_cs] at h_word
    exact ⟨rest, callHere?_eq_some_iff.2 ⟨h_word, blanks, h_blanks, h_cs⟩, rfl⟩
  · rintro ⟨rest, h_rest, rfl⟩
    obtain ⟨h_word, blanks, h_blanks, h_cs⟩ := callHere?_eq_some_iff.1 h_rest
    refine ⟨?_, blanks, h_blanks, ?_⟩
    · rw [h_head h_cs]
      exact h_word
    · rw [← List.append_assoc, append_return_eq_iff h_open]
      exact ⟨rest, rfl, h_cs.trans (List.append_assoc _ _ _).symm⟩

theorem nextCall?_append_return (m : Marker) (before : Option Char) (cs : List Char) :
    m.nextCall? before (cs ++ ['\r']) = (m.nextCall? before cs).map (· ++ ['\r']) := by
  induction cs generalizing before with
  | nil =>
      have h_nil : m.callHere? before [] = none := by
        rw [Option.eq_none_iff_forall_ne_some]
        exact fun rest h => absurd (length_lt_of_callHere? h) (Nat.not_lt_zero _)
      have h_here := m.callHere?_append_return before []
      rw [List.nil_append, h_nil, Option.map_none] at h_here
      rw [List.nil_append, nextCall?, nextCall?, h_here]
      rfl
  | cons c cs ih =>
      have h_here := m.callHere?_append_return before (c :: cs)
      rw [List.cons_append] at h_here
      rw [List.cons_append, nextCall?, nextCall?, h_here, ih]
      cases m.callHere? before (c :: cs) with
      | none => rfl
      | some rest => rfl

theorem scanFrom_append_return (m : Marker) (before : Option Char) (cs : List Char) :
    m.scanFrom before (cs ++ ['\r']) = m.scanFrom before cs := by
  fun_induction m.scanFrom before cs with
  | case1 before cs h =>
      rw [scanFrom_eq, nextCall?_append_return, h]
      rfl
  | case2 before cs rest h text rest' h_tag ih =>
      rw [scanFrom_eq, nextCall?_append_return, h, Option.map_some]
      dsimp only
      rw [scanArguments_append_return, h_tag]
      exact congrArg (Finding.tag text :: ·) ih
  | case3 before cs rest h h_untagged ih =>
      rw [scanFrom_eq, nextCall?_append_return, h, Option.map_some]
      dsimp only
      rw [scanArguments_append_return, h_untagged]
      exact ih
  | case4 before cs rest h h_unterminated =>
      rw [scanFrom_eq, nextCall?_append_return, h, Option.map_some]
      dsimp only
      rw [scanArguments_append_return, h_unterminated]
      rfl

/-- A carriage return at the end of a line makes no difference to what the line yields. -/
theorem scanLine_dropReturn (m : Marker) (l : List Char) :
    m.scanLine (Text.dropReturn l) = m.scanLine l := by
  rcases Text.eq_dropReturn_or l with h | h
  · rw [← h]
  · conv_rhs => rw [h]
    exact (m.scanFrom_append_return none _).symm

theorem scanLine_nil (m : Marker) : m.scanLine [] = [] := by
  rw [scanLine, scanFrom_eq]
  rfl

/-! ## The pieces of a text -/

/-- Lines written behind each other are scanned as they are, whatever the line ends. -/
theorem scanLines_joinLines (m : Marker) (withReturn : Bool) (first : Nat)
    {ls : List (List Char)} (h : ∀ l ∈ ls, '\n' ∉ l) :
    m.scanLines first (Text.lines (Text.joinLines withReturn ls)) = m.scanLines first ls := by
  induction ls generalizing first with
  | nil => rfl
  | cons l ls ih =>
      have hl : '\n' ∉ l := h l List.mem_cons_self
      cases ls with
      | nil =>
          by_cases hne : l = []
          · subst hne
            rw [scanLines, scanLine_nil]
            rfl
          · rw [Text.joinLines, Text.lines_of_not_mem hl hne]
      | cons l' ls =>
          have h_line :
              m.scanLine (if withReturn then l else Text.dropReturn l) = m.scanLine l := by
            split
            · rfl
            · exact m.scanLine_dropReturn l
          rw [Text.joinLines, Text.lines_append_lineEnd withReturn _ hl, scanLines, scanLines,
            h_line, ih _ fun k hk => h k (List.mem_cons_of_mem l hk)]
          exact List.cons_ne_nil l' ls

/-- A text is scanned as the pieces between its line feeds, whatever the line ends. -/
theorem scanLines_withLineEnds (m : Marker) (withReturn : Bool) (first : Nat) (cs : List Char) :
    m.scanLines first (Text.lines (Text.withLineEnds withReturn cs)) =
      m.scanLines first (Text.splitAtEach '\n' cs) := by
  rw [← Text.joinLines_splitAtEach]
  exact m.scanLines_joinLines withReturn first fun _ => Text.not_mem_of_mem_splitAtEach

theorem scanLines_lines (m : Marker) (first : Nat) (cs : List Char) :
    m.scanLines first (Text.lines cs) = m.scanLines first (Text.splitAtEach '\n' cs) := by
  have h := m.scanLines_withLineEnds false first cs
  rwa [Text.withLineEnds_false] at h

theorem scanLines_add (m : Marker) (first k : Nat) (ls : List (List Char)) :
    m.scanLines (first + k) ls = (m.scanLines first ls).map fun f => (f.1 + k, f.2) := by
  induction ls generalizing first with
  | nil => rfl
  | cons l ls ih =>
      rw [scanLines, scanLines, Nat.add_right_comm, ih, List.map_append, List.map_map]
      rfl

/-- The findings of two texts with a line feed between them: those of the second come behind
those of the first, as many lines further down as the first text has. -/
theorem scanLines_append_lineFeed (m : Marker) (first : Nat) (a b : List Char) :
    m.scanLines first (Text.lines (a ++ '\n' :: b)) =
      m.scanLines first (Text.lines a) ++
        (m.scanLines first (Text.lines b)).map fun f => (f.1 + (a.count '\n' + 1), f.2) := by
  rw [scanLines_lines, scanLines_lines, scanLines_lines, Text.splitAtEach_append,
    scanLines_append, Text.length_splitAtEach, scanLines_add]

theorem filter_scanLines_of_lt (m : Marker) {first line : Nat} (h : line < first)
    (ls : List (List Char)) :
    (m.scanLines first ls).filter (fun f => f.1 = line) = [] := by
  rw [List.filter_eq_nil_iff]
  intro f hf
  obtain ⟨i, -, -, hline, -⟩ := mem_scanLines.1 hf
  have h_lt : line < f.1 := hline ▸ Nat.lt_of_lt_of_le h (Nat.le_add_right first i)
  rw [decide_eq_true_eq]
  exact Nat.ne_of_gt h_lt

/-- What is found on one line is what the scan of this line finds. -/
theorem filter_scanLines (m : Marker) (first n : Nat) (ls : List (List Char)) :
    (m.scanLines first ls).filter (fun f => f.1 = first + n) =
      (ls[n]?.elim [] m.scanLine).map (first + n, ·) := by
  induction ls generalizing first n with
  | nil => rfl
  | cons l ls ih =>
      rw [scanLines, List.filter_append, List.filter_map]
      cases n with
      | zero =>
          have h_all : (m.scanLine l).filter ((fun f : Nat × Finding => decide (f.1 = first)) ∘
              (first, ·)) = m.scanLine l :=
            List.filter_eq_self.2 fun _ _ => decide_eq_true rfl
          rw [Nat.add_zero, m.filter_scanLines_of_lt (Nat.lt_succ_self first), h_all,
            List.append_nil]
          rfl
      | succ n =>
          have h_next : first + (n + 1) = first + 1 + n := by omega
          have h_none : (m.scanLine l).filter ((fun f : Nat × Finding =>
              decide (f.1 = first + 1 + n)) ∘ (first, ·)) = [] :=
            List.filter_eq_nil_iff.2 fun _ _ => by
              rw [Function.comp_apply, decide_eq_true_eq]
              omega
          rw [h_next, ih, h_none, List.map_nil, List.nil_append, List.getElem?_cons_succ]

end Marker

/-! ## Tags and warnings -/

/-- A tag that is found `k` lines further down. -/
def Tag.moveDown (k : Nat) (tag : Tag) : Tag :=
  { tag with line := tag.line + k }

/-- A warning about what is `k` lines further down. -/
def Warning.moveDown (k : Nat) : Warning → Warning
  | unterminatedTag line => unterminatedTag (line + k)
  | emptyTag line => emptyTag (line + k)
  | duplicatePath line path => duplicatePath (line + k) path

namespace Marker.Finding

theorem tag?_add (f : Finding) (line k : Nat) :
    f.tag? (line + k) = (f.tag? line).map (Tag.moveDown k) := by
  cases f with
  | tag text =>
      rw [tag?, tag?]
      split
      · rfl
      · rfl
  | unterminated => rfl

theorem warning?_add (f : Finding) (line k : Nat) :
    f.warning? (line + k) = (f.warning? line).map (Warning.moveDown k) := by
  cases f with
  | tag text =>
      rw [warning?, warning?]
      split
      · rfl
      · rfl
  | unterminated => rfl

end Marker.Finding

namespace TaggedSource

/-! What findings yield when they are moved down, and what they yield on one line. -/

variable {α : Type} (yield : Nat → Marker.Finding → Option α)

theorem filterMap_append_moved {k : Nat} {move : α → α}
    (h : ∀ line f, yield (line + k) f = (yield line f).map move)
    (fs gs : List (Nat × Marker.Finding)) :
    (fs ++ gs.map fun f => (f.1 + k, f.2)).filterMap (fun (line, f) => yield line f) =
      fs.filterMap (fun (line, f) => yield line f) ++
        (gs.filterMap fun (line, f) => yield line f).map move := by
  rw [List.filterMap_append, List.filterMap_map, List.map_filterMap]
  refine congrArg (_ ++ List.filterMap · gs) (funext fun found => ?_)
  exact h found.1 found.2

/-- What is yielded on one line is what the scan of this line yields. -/
theorem filter_filterMap_scanLines {lineOf : α → Nat}
    (h : ∀ line f a, yield line f = some a → lineOf a = line) (m : Marker) (text : String)
    (n : Nat) :
    ((m.scanLines 1 (Text.lines text.toList)).filterMap fun (line, f) => yield line f).filter
        (fun a => lineOf a = n) =
      ((parse m text).line? n).elim [] fun l => (m.scanLine l.toList).filterMap (yield n) := by
  have h_on (fs : List (Nat × Marker.Finding)) :
      (fs.filterMap fun (line, f) => yield line f).filter (fun a => lineOf a = n) =
        (fs.filter fun f => f.1 = n).filterMap fun (line, f) => yield line f := by
    rw [List.filter_filterMap, List.filterMap_filter]
    refine congrArg (List.filterMap · fs) (funext fun found => ?_)
    obtain ⟨line, f⟩ := found
    cases h_yield : yield line f with
    | none => simp [h_yield]
    | some a => simp [h_yield, Option.filter_some, h line f a h_yield]
  rw [h_on]
  cases n with
  | zero =>
      rw [m.filter_scanLines_of_lt Nat.one_pos]
      rfl
  | succ n =>
      rw [Nat.add_comm n 1, m.filter_scanLines, List.filterMap_map]
      have h_line : (parse m text).line? (1 + n) =
          ((Text.lines text.toList)[n]?).map String.ofList := by
        rw [Nat.add_comm]
        rfl
      rw [h_line]
      cases (Text.lines text.toList)[n]? with
      | none => rfl
      | some l => simp

end TaggedSource

/-- Scanning is a matter of lines. Of two texts with a line feed between them, the second
yields what it does alone, as many lines further down as the first has. It makes no
difference whether lines end in a line feed alone. And what is yielded on one line is what
this line yields, whatever the others hold. -/
theorem TaggedSource.parse_append (m : Marker) (a b : String) :
    let k := a.toList.count '\n' + 1
    let withReturns := String.ofList (Text.withLineEnds true a.toList)
    ((parse m (a ++ "\n" ++ b)).tags =
          (parse m a).tags ++ (parse m b).tags.map (Tag.moveDown k) ∧
        (parse m (a ++ "\n" ++ b)).warnings =
          (parse m a).warnings ++ (parse m b).warnings.map (Warning.moveDown k)) ∧
      ((parse m withReturns).tags = (parse m a).tags ∧
        (parse m withReturns).warnings = (parse m a).warnings) ∧
      ∀ n,
        (parse m a).tags.filter (·.line = n) =
            (((parse m a).line? n).elim [] fun l =>
              (m.scanLine l.toList).filterMap fun f => f.tag? n) ∧
          (parse m a).warnings.filter (·.line = n) =
            (((parse m a).line? n).elim [] fun l =>
              (m.scanLine l.toList).filterMap fun f => f.warning? n) := by
  intro k withReturns
  have h_append : m.scanLines 1 (Text.lines (a ++ "\n" ++ b).toList) =
      m.scanLines 1 (Text.lines a.toList) ++
        (m.scanLines 1 (Text.lines b.toList)).map fun f => (f.1 + k, f.2) := by
    rw [String.toList_append, String.toList_append, List.append_assoc]
    exact m.scanLines_append_lineFeed 1 a.toList b.toList
  have h_returns : m.scanLines 1 (Text.lines withReturns.toList) =
      m.scanLines 1 (Text.lines a.toList) := by
    rw [String.toList_ofList, m.scanLines_withLineEnds, m.scanLines_lines]
  refine ⟨⟨?_, ?_⟩, ⟨?_, ?_⟩, fun n => ⟨?_, ?_⟩⟩
  · rw [parse, h_append]
    exact filterMap_append_moved Marker.Finding.tag? (fun line f => f.tag?_add line k) _ _
  · rw [parse, h_append]
    exact filterMap_append_moved Marker.Finding.warning? (fun line f => f.warning?_add line k) _ _
  · rw [parse, h_returns]
    rfl
  · rw [parse, h_returns]
    rfl
  · exact filter_filterMap_scanLines Marker.Finding.tag?
      (fun _ _ _ h => Marker.Finding.line_of_tag? h) m a n
  · exact filter_filterMap_scanLines Marker.Finding.warning?
      (fun _ _ _ h => Marker.Finding.line_of_warning? h) m a n

end Showcase
