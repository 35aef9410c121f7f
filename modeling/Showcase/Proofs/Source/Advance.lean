import Showcase.Proofs.Source.Scan
import Showcase.Proofs.Text.Offsets

/-!
# The scan of a line by byte offsets

A scan can be told by the offset it goes on from: look for a call from there, read its argument
list behind the parenthesis, and add the bytes that were read. Such a scan is at risk of what
`Marker.scanFrom` is not: an offset may be inside a character or beyond the end of the
line, it may fail to grow, and a byte too many may step over a call.

Bytes are counted by `Marker.callEnd?` up to behind the parenthesis, and by `measureArguments`
up to behind the closing quote; both come to what is in front of the rest that the scans
of characters leave. `Marker.turn?` is one turn, without a result where the line cannot be
cut, and `Marker.Scans` is a run of turns. All is derived from `turn?_cases`: from a place in
the line a turn has a result, and goes on at a place further down, where `scanFrom` goes on too.
So a run comes to an end, and finds what `scanLine` does.
-/

namespace Showcase

open String (utf8Len)

namespace Marker

variable {m : Marker}

/-! ## Calls by byte counts -/

/-- The number of bytes of the call that a text starts with: name, blanks, and parenthesis. -/
def callSize (m : Marker) (cs : List Char) : Nat :=
  m.name.utf8ByteSize + utf8Len ((cs.drop m.name.length).takeWhile Text.isBlank) + 1

/-- The offset behind the parenthesis of the next call, when the text starts at the offset `n`. -/
def callEnd? (m : Marker) : Option Char → Nat → List Char → Option Nat
  | _, _, [] => none
  | before, n, c :: cs =>
    if (m.callHere? before (c :: cs)).isSome then some (n + m.callSize (c :: cs))
    else m.callEnd? (some c) (n + c.utf8Size) cs

theorem callSize_add {before : Option Char} {cs rest : List Char}
    (h : m.callHere? before cs = some rest) : m.callSize cs + utf8Len rest = utf8Len cs := by
  obtain ⟨-, blanks, h_blanks, rfl⟩ := callHere?_eq_some_iff.1 h
  have h_open : Text.isBlank '(' = false := by decide
  have h_taken : (blanks ++ '(' :: rest).takeWhile Text.isBlank = blanks := by
    rw [List.takeWhile_append_of_pos h_blanks, List.takeWhile_cons_of_neg (by simp [h_open]),
      List.append_nil]
  rw [callSize, ← String.length_toList, List.drop_left, h_taken, ← String.utf8Len_toList]
  simp only [String.utf8Len_append, String.utf8Len_cons]
  have h_size : '('.utf8Size = 1 := rfl
  omega

/-- A call ends where what follows it starts. -/
theorem callEnd?_eq (m : Marker) (before : Option Char) (n : Nat) (cs : List Char) :
    m.callEnd? before n cs =
      (m.nextCall? before cs).map fun rest => n + utf8Len cs - utf8Len rest := by
  induction cs generalizing before n with
  | nil => rfl
  | cons c cs ih =>
      rw [callEnd?, nextCall?]
      cases h_here : m.callHere? before (c :: cs) with
      | some rest =>
          rw [← callSize_add h_here, ← Nat.add_assoc, Option.map_some, Nat.add_sub_cancel]
          rfl
      | none =>
          rw [ih, Text.add_utf8Len_cons]
          rfl

/-! ## One turn -/

/-- What one turn of a scan comes to. -/
inductive Turn
  /-- No call is left. -/
  | ended
  /-- The call has a literal that runs to the end of the line. -/
  | unterminated
  /-- The scan goes on at the offset `next`, with the tag of the call if it has one. -/
  | goOn (tag : Option (List Char)) (next : Nat)
  deriving DecidableEq, Repr

/-- How the scan goes on when the argument list of its call starts at the offset `start`. -/
def Turn.behind (start : Nat) : MeasuredScan → Turn
  | .tag text bytes => goOn (some text) (start + bytes)
  | .untagged => goOn none start
  | .unterminated => unterminated

/-- One turn of the scan of a line from an offset. It has no result if the line cannot be cut
there, or not where the argument list is to start. -/
def turn? (m : Marker) (line : List Char) (offset : Nat) : Option Turn := do
  let cut ← Text.cutAt? offset line
  match m.callEnd? cut.1.getLast? offset cut.2 with
  | none => return .ended
  | some start =>
    let call ← Text.cutAt? start line
    return .behind start (measureArguments 0 0 call.2)

variable {passed cs rest : List Char}

theorem turn?_of_nextCall?_eq_none (h : m.nextCall? passed.getLast? cs = none) :
    m.turn? (passed ++ cs) (utf8Len passed) = some .ended := by
  have h_cut : Text.cutAt? (utf8Len passed) (passed ++ cs) = some (passed, cs) :=
    Text.cutAt?_append passed cs
  simp [turn?, callEnd?_eq, h_cut, h]

/-- The line can be cut behind the parenthesis of a call. -/
theorem turn?_of_nextCall? {opened : List Char} (h_line : passed ++ cs = opened ++ rest)
    (h : m.nextCall? passed.getLast? cs = some rest) :
    m.turn? (passed ++ cs) (utf8Len passed) =
      some (.behind (utf8Len opened) (measureArguments 0 0 rest)) := by
  have h_cut : Text.cutAt? (utf8Len passed) (passed ++ cs) = some (passed, cs) :=
    Text.cutAt?_append passed cs
  have h_end : m.callEnd? passed.getLast? (utf8Len passed) cs = some (utf8Len opened) := by
    rw [callEnd?_eq, h, Option.map_some, ← String.utf8Len_append, h_line,
      Text.utf8Len_append_sub]
  have h_call : Text.cutAt? (utf8Len opened) (passed ++ cs) = some (opened, rest) := by
    rw [h_line]
    exact Text.cutAt?_append opened rest
  simp [turn?, h_cut, h_end, h_call]

/-- From a place in a line a turn has a result: no call is left, or the literal of the call is
left open, or the turn goes on at a place further down. The scan of the line goes the same
way. -/
theorem turn?_cases (m : Marker) (passed cs : List Char) :
    (m.turn? (passed ++ cs) (utf8Len passed) = some .ended ∧
        m.scanFrom passed.getLast? cs = []) ∨
      (m.turn? (passed ++ cs) (utf8Len passed) = some .unterminated ∧ cs ≠ [] ∧
        m.scanFrom passed.getLast? cs = [.unterminated]) ∨
      ∃ tag read rest, cs = read ++ rest ∧ read ≠ [] ∧
        m.turn? (passed ++ cs) (utf8Len passed) = some (.goOn tag (utf8Len (passed ++ read))) ∧
        m.scanFrom passed.getLast? cs =
          (tag.map .tag).toList ++ m.scanFrom (passed ++ read).getLast? rest := by
  have h_from := m.scanFrom_eq passed.getLast? cs
  cases h_call : m.nextCall? passed.getLast? cs with
  | none =>
      rw [h_call] at h_from
      exact .inl ⟨turn?_of_nextCall?_eq_none h_call, h_from⟩
  | some rest =>
      obtain ⟨part, rfl⟩ := suffix_of_nextCall? h_call
      have h_line : passed ++ (part ++ '(' :: rest) = passed ++ part ++ ['('] ++ rest := by simp
      have h_turn := turn?_of_nextCall? h_line h_call
      rw [measureArguments_eq, Nat.zero_add] at h_turn
      refine .inr ?_
      cases h_scan : scanArguments 0 rest with
      | tag text rest' =>
          obtain ⟨inside, rfl⟩ := suffix_of_scanArguments h_scan
          simp only [h_call, h_scan] at h_from
          -- the quote is what stands before the rest, as it does for the scan of the line
          refine .inr ⟨some text, part ++ '(' :: inside ++ ['"'], rest', by simp, by simp, ?_, ?_⟩
          · rw [h_turn, h_scan, ArgumentScan.measured, Turn.behind, List.append_cons inside,
              Text.utf8Len_append_sub, ← String.utf8Len_append]
            simp
          · rw [h_from, ← List.append_assoc, List.getLast?_concat]
            rfl
      | untagged =>
          simp only [h_call, h_scan] at h_from
          refine .inr ⟨none, part ++ ['('], rest, by simp, by simp, ?_, ?_⟩
          · rw [h_turn, h_scan, ← List.append_assoc]
            rfl
          · rw [h_from, ← List.append_assoc, List.getLast?_concat]
            rfl
      | unterminated =>
          simp only [h_call, h_scan] at h_from
          rw [h_scan] at h_turn
          exact .inl ⟨h_turn, by simp, h_from⟩

/-! ## A run -/

/-- The scan of a line from an offset comes to an end: `offsets` lists where its turns start
that have a call, and `found` what they find. -/
inductive Scans (m : Marker) (line : List Char) : Nat → List Nat → List Finding → Prop
  | ended {offset : Nat} (h : m.turn? line offset = some .ended) : Scans m line offset [] []
  | unterminated {offset : Nat} (h : m.turn? line offset = some .unterminated) :
      Scans m line offset [offset] [.unterminated]
  | goOn {offset next : Nat} {tag : Option (List Char)} {offsets : List Nat}
      {found : List Finding} (h : m.turn? line offset = some (.goOn tag next))
      (h_rest : Scans m line next offsets found) :
      Scans m line offset (offset :: offsets) ((tag.map .tag).toList ++ found)

/-- The scan from any place in a line comes to an end, with the findings of the line from there
on. -/
theorem exists_scans (m : Marker) (passed cs : List Char) :
    ∃ offsets, m.Scans (passed ++ cs) (utf8Len passed) offsets
      (m.scanFrom passed.getLast? cs) := by
  -- what is left of the line gets shorter with every turn
  induction h_length : cs.length using Nat.strong_induction_on generalizing passed cs with
  | h n ih =>
      rcases m.turn?_cases passed cs with ⟨h_turn, h_found⟩ | ⟨h_turn, -, h_found⟩ |
        ⟨tag, read, rest, rfl, h_read, h_turn, h_found⟩
      · exact ⟨[], h_found ▸ .ended h_turn⟩
      · exact ⟨[utf8Len passed], h_found ▸ .unterminated h_turn⟩
      · have h_lt : rest.length < n := by
          rw [← h_length, List.length_append]
          exact Nat.lt_add_of_pos_left (List.length_pos_iff.2 h_read)
        obtain ⟨offsets, h_rest⟩ := ih rest.length h_lt (passed ++ read) rest rfl
        rw [List.append_assoc] at h_rest
        exact ⟨utf8Len passed :: offsets, h_found ▸ .goOn h_turn h_rest⟩

/-- There is only one way a scan can go. -/
theorem Scans.unique {line : List Char} {offset : Nat} {offsets offsets' : List Nat}
    {found found' : List Finding} (h : m.Scans line offset offsets found)
    (h' : m.Scans line offset offsets' found') : offsets' = offsets ∧ found' = found := by
  induction h generalizing offsets' found' with
  | ended h_turn =>
      cases h' with
      | ended _ => exact ⟨rfl, rfl⟩
      | unterminated h_turn' => cases h_turn.symm.trans h_turn'
      | goOn h_turn' _ => cases h_turn.symm.trans h_turn'
  | unterminated h_turn =>
      cases h' with
      | ended h_turn' => cases h_turn.symm.trans h_turn'
      | unterminated _ => exact ⟨rfl, rfl⟩
      | goOn h_turn' _ => cases h_turn.symm.trans h_turn'
  | goOn h_turn _ ih =>
      cases h' with
      | ended h_turn' => cases h_turn.symm.trans h_turn'
      | unterminated h_turn' => cases h_turn.symm.trans h_turn'
      | goOn h_turn' h_rest =>
          cases h_turn.symm.trans h_turn'
          obtain ⟨rfl, rfl⟩ := ih h_rest
          exact ⟨rfl, rfl⟩

variable {line : String} {offset : Nat}

/-- A turn has a result exactly from the valid positions of the line. -/
theorem isSome_turn?_iff (m : Marker) :
    (m.turn? line.toList offset).isSome ↔ String.Pos.Raw.IsValid line ⟨offset⟩ := by
  constructor
  · intro h
    rw [← Text.isSome_cutAt?_iff]
    cases h_cut : Text.cutAt? offset line.toList with
    | none => simp [turn?, h_cut] at h
    | some cut => rfl
  · intro h
    obtain ⟨passed, cs, h_line, rfl⟩ := Text.isValid_iff.1 h
    rw [h_line]
    rcases m.turn?_cases passed cs with ⟨h_turn, -⟩ | ⟨h_turn, -⟩ | ⟨_, _, _, -, -, h_turn, -⟩
    · rw [h_turn, Option.isSome_some]
    · rw [h_turn, Option.isSome_some]
    · rw [h_turn, Option.isSome_some]

/-- A turn that goes on goes on at a place further down. -/
theorem lt_of_turn?_goOn (h : String.Pos.Raw.IsValid line ⟨offset⟩) {tag : Option (List Char)}
    {next : Nat} (h_turn : m.turn? line.toList offset = some (.goOn tag next)) :
    offset < next ∧ String.Pos.Raw.IsValid line ⟨next⟩ := by
  obtain ⟨passed, cs, h_line, rfl⟩ := Text.isValid_iff.1 h
  rw [h_line] at h_turn
  rcases m.turn?_cases passed cs with ⟨h_turn', -⟩ | ⟨h_turn', -⟩ |
    ⟨tag', read, rest, rfl, h_read, h_turn', -⟩
  · cases h_turn.symm.trans h_turn'
  · cases h_turn.symm.trans h_turn'
  · cases h_turn.symm.trans h_turn'
    refine ⟨?_, Text.isValid_iff.2 ⟨passed ++ read, rest, by simp [h_line], rfl⟩⟩
    rw [String.utf8Len_append]
    exact Nat.lt_add_of_pos_right (Text.utf8Len_pos h_read)

/-- A turn that finds a literal left open starts before the end of the line. -/
theorem lt_of_turn?_unterminated (h : String.Pos.Raw.IsValid line ⟨offset⟩)
    (h_turn : m.turn? line.toList offset = some .unterminated) : offset < line.utf8ByteSize := by
  obtain ⟨passed, cs, h_line, rfl⟩ := Text.isValid_iff.1 h
  rw [← String.utf8Len_toList, h_line]
  rw [h_line] at h_turn
  rcases m.turn?_cases passed cs with ⟨h_turn', -⟩ | ⟨-, h_ne, -⟩ | ⟨_, _, _, -, -, h_turn', -⟩
  · cases h_turn.symm.trans h_turn'
  · rw [String.utf8Len_append]
    exact Nat.lt_add_of_pos_right (Text.utf8Len_pos h_ne)
  · cases h_turn.symm.trans h_turn'

/-- Every turn with a call takes up a byte of the line at least. -/
theorem Scans.add_length_le {offsets : List Nat} {found : List Finding}
    (h : m.Scans line.toList offset offsets found)
    (h_valid : String.Pos.Raw.IsValid line ⟨offset⟩) :
    offset + offsets.length ≤ line.utf8ByteSize := by
  induction h with
  | ended _ => exact h_valid.le_rawEndPos
  | unterminated h_turn => exact lt_of_turn?_unterminated h_valid h_turn
  | goOn h_turn _ ih =>
      obtain ⟨h_lt, h_next⟩ := lt_of_turn?_goOn h_valid h_turn
      have h_rest := ih h_next
      rw [List.length_cons]
      omega

theorem Scans.le_and_isValid {offsets : List Nat} {found : List Finding}
    (h : m.Scans line.toList offset offsets found)
    (h_valid : String.Pos.Raw.IsValid line ⟨offset⟩) :
    ∀ place ∈ offsets, offset ≤ place ∧ String.Pos.Raw.IsValid line ⟨place⟩ := by
  induction h with
  | ended _ => exact fun place h_place => absurd h_place List.not_mem_nil
  | unterminated _ =>
      intro place h_place
      obtain rfl := List.mem_singleton.1 h_place
      exact ⟨Nat.le_refl place, h_valid⟩
  | goOn h_turn _ ih =>
      obtain ⟨h_lt, h_next⟩ := lt_of_turn?_goOn h_valid h_turn
      intro place h_place
      rcases List.mem_cons.1 h_place with rfl | h_place
      · exact ⟨Nat.le_refl place, h_valid⟩
      · obtain ⟨h_le, h_place⟩ := ih h_next place h_place
        exact ⟨Nat.le_trans (Nat.le_of_lt h_lt) h_le, h_place⟩

/-- Every turn starts behind the one before. -/
theorem Scans.pairwise {offsets : List Nat} {found : List Finding}
    (h : m.Scans line.toList offset offsets found)
    (h_valid : String.Pos.Raw.IsValid line ⟨offset⟩) : offsets.Pairwise (· < ·) := by
  induction h with
  | ended _ => exact .nil
  | unterminated _ => exact List.pairwise_singleton _ _
  | goOn h_turn h_rest ih =>
      obtain ⟨h_lt, h_next⟩ := lt_of_turn?_goOn h_valid h_turn
      refine List.pairwise_cons.2 ⟨fun place h_place => ?_, ih h_next⟩
      exact Nat.lt_of_lt_of_le h_lt (h_rest.le_and_isValid h_next place h_place).1

/-- From every valid position of a line a turn has a result, and goes on, if it does, at a valid
position further down. So there is one way the scan of a line can go, with no more turns
than the line has bytes, each from a valid position behind the one before, and it finds what
`scanLine` does. -/
theorem scanLine_advances (m : Marker) (line : String) :
    (∀ offset, String.Pos.Raw.IsValid line ⟨offset⟩ →
      ∃ turn, m.turn? line.toList offset = some turn ∧
        ∀ tag next, turn = .goOn tag next →
          offset < next ∧ next ≤ line.utf8ByteSize ∧ String.Pos.Raw.IsValid line ⟨next⟩) ∧
      ∃ offsets,
        (∀ offsets' found, m.Scans line.toList 0 offsets' found ↔
          offsets' = offsets ∧ found = m.scanLine line.toList) ∧
        offsets.Pairwise (· < ·) ∧
        (∀ offset ∈ offsets, String.Pos.Raw.IsValid line ⟨offset⟩) ∧
        offsets.length ≤ line.utf8ByteSize := by
  constructor
  · intro offset h_valid
    obtain ⟨turn, h_turn⟩ := Option.isSome_iff_exists.1 ((isSome_turn?_iff m).2 h_valid)
    refine ⟨turn, h_turn, ?_⟩
    rintro tag next rfl
    obtain ⟨h_lt, h_next⟩ := lt_of_turn?_goOn h_valid h_turn
    exact ⟨h_lt, h_next.le_rawEndPos, h_next⟩
  · have h_start : String.Pos.Raw.IsValid line ⟨0⟩ := String.Pos.Raw.isValid_zero
    obtain ⟨offsets, h_exists⟩ := m.exists_scans [] line.toList
    have h_scans : m.Scans line.toList 0 offsets (m.scanLine line.toList) := h_exists
    refine ⟨offsets, fun offsets' found => ⟨h_scans.unique, ?_⟩, h_scans.pairwise h_start,
      fun offset h_offset => (h_scans.le_and_isValid h_start offset h_offset).2, ?_⟩
    · rintro ⟨rfl, rfl⟩
      exact h_scans
    · have h_length := h_scans.add_length_le h_start
      rwa [Nat.zero_add] at h_length

/-- A tag with characters of two bytes, a call without a tag, and one that is left open. -/
theorem scanLine_advances_three_calls :
    let m : Marker := ⟨"tag", by decide⟩
    let line := "é tag(x, \"ü\\\"\") tag(1) tag(\""
    String.Pos.Raw.IsValid line ⟨3⟩ ∧
      m.turn? line.toList 3 = some (.goOn (some ['ü', '"']) 16) ∧
      3 < 16 ∧ 16 ≤ line.utf8ByteSize ∧ String.Pos.Raw.IsValid line ⟨16⟩ ∧
      m.scanLine line.toList = [.tag ['ü', '"'], .unterminated] ∧
      22 ∈ [0, 16, 22] ∧ String.Pos.Raw.IsValid line ⟨22⟩ ∧
      [0, 16, 22].length ≤ line.utf8ByteSize := by
  intro m line
  obtain ⟨h_turns, offsets, h_scans, -, h_valid, h_length⟩ := scanLine_advances m line
  have h_here : String.Pos.Raw.IsValid line ⟨3⟩ :=
    Text.isValid_iff.2 ⟨['é', ' '], line.toList.drop 2, by decide, by decide⟩
  have h_tag : m.turn? line.toList 3 = some (.goOn (some ['ü', '"']) 16) := by decide +kernel
  have h_first : m.turn? line.toList 0 = some (.goOn (some ['ü', '"']) 16) := by decide +kernel
  obtain ⟨turn, h_turn, h_next⟩ := h_turns 3 h_here
  obtain rfl : turn = .goOn (some ['ü', '"']) 16 := Option.some.inj (h_turn.symm.trans h_tag)
  obtain ⟨h_lt, h_le, h_valid_next⟩ := h_next _ _ rfl
  have h_untagged : m.turn? line.toList 16 = some (.goOn none 22) := by decide +kernel
  have h_open : m.turn? line.toList 22 = some .unterminated := by decide +kernel
  have h_run : m.Scans line.toList 0 [0, 16, 22] [.tag ['ü', '"'], .unterminated] :=
    .goOn h_first (.goOn h_untagged (.unterminated h_open))
  obtain ⟨rfl, h_found⟩ := (h_scans _ _).1 h_run
  have h_mem : 22 ∈ [0, 16, 22] := by decide
  exact ⟨h_here, h_tag, h_lt, h_le, h_valid_next, h_found.symm, h_mem, h_valid 22 h_mem, h_length⟩

end Marker

end Showcase
