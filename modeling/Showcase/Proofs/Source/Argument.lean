import Mathlib.Data.List.Infix
import Showcase.Proofs.Text.Offsets
import Showcase.Source.Argument

/-!
# The grammar of an argument list

A literal is a sequence of items up to the quote that closes it. An item is a character that
stands for itself, or a backslash with the character behind it, whichever that is: so a quote
behind a backslash never closes a literal, and a backslash at the very end is no item.
`written` gives the characters of an item and `meant` its text.

What stands before the literal holds no quote and never closes more parentheses than it has
opened. `StaysOpen depth` says so of a text inside `depth` parentheses, which is what a scan
through it carries along. A scan comes to the first quote if the text before it stays open,
and stops without a tag if it does not.

A scan can also count the bytes that it reads, as `measureArguments` does. What it counts is the
size of what is in front of the rest that `scanArguments` leaves.
-/

namespace Showcase

open String (utf8Len)

/-- What a literal is made of. -/
inductive LiteralItem
  /-- A character that stands for itself. -/
  | plain (c : Char) (not_quote : c ≠ '"') (not_backslash : c ≠ '\\')
  /-- A backslash and the character behind it. -/
  | escaped (c : Char)

namespace LiteralItem

def written : LiteralItem → List Char
  | plain c _ _ => [c]
  | escaped c => ['\\', c]

/-- The text of an item: behind a backslash, a quote and a backslash stand for themselves. -/
def meant : LiteralItem → List Char
  | plain c _ _ => [c]
  | escaped c => if c = '"' ∨ c = '\\' then [c] else ['\\', c]

theorem meant_subset_written (item : LiteralItem) : item.meant ⊆ item.written := by
  cases item with
  | plain c _ _ => exact List.Subset.refl _
  | escaped c =>
      rw [meant, written]
      split
      · exact List.subset_cons_self '\\' [c]
      · exact List.Subset.refl _

end LiteralItem

/-! ## Literals -/

/-- An item at the front of a literal is read as what it means. -/
theorem scanLiteral?_written_append (item : LiteralItem) (cs : List Char) :
    scanLiteral? (item.written ++ cs) =
      (scanLiteral? cs).map fun read => (item.meant ++ read.1, read.2) := by
  cases item with
  | plain c not_quote not_backslash =>
      rw [LiteralItem.written, List.singleton_append, scanLiteral?]
      · rfl
      · exact not_quote
      · exact fun h _ => not_backslash h
      · exact fun _ _ h _ => not_backslash h
  | escaped c =>
      rw [LiteralItem.written, List.cons_append, List.singleton_append, scanLiteral?]
      refine congrArg (Option.map · _) (funext fun read => ?_)
      by_cases hc : c = '"' ∨ c = '\\'
      · have h_dropped : (decide (c = '"') || decide (c = '\\')) = true := by simpa using hc
        rw [LiteralItem.meant, if_pos hc]
        exact if_pos h_dropped
      · have h_kept : ¬(decide (c = '"') || decide (c = '\\')) = true := by simpa using hc
        rw [LiteralItem.meant, if_neg hc]
        exact if_neg h_kept

theorem exists_of_scanLiteral?_written_append (item : LiteralItem) {cs text rest : List Char}
    (h : scanLiteral? (item.written ++ cs) = some (text, rest)) :
    ∃ text', scanLiteral? cs = some (text', rest) ∧ text = item.meant ++ text' := by
  rw [scanLiteral?_written_append, Option.map_eq_some_iff] at h
  obtain ⟨⟨text', rest'⟩, h_rest, h_eq⟩ := h
  obtain ⟨rfl, rfl⟩ := Prod.mk.inj h_eq
  exact ⟨text', h_rest, rfl⟩

/-- A literal is read exactly if it consists of items, up to the quote that closes it. -/
theorem scanLiteral?_eq_some_iff {cs text rest : List Char} :
    scanLiteral? cs = some (text, rest) ↔
      ∃ items : List LiteralItem, cs = items.flatMap LiteralItem.written ++ '"' :: rest ∧
        text = items.flatMap LiteralItem.meant := by
  constructor
  · intro h
    -- the cases of the reader: the literal closes, or it has one item in front of the rest
    induction cs using scanLiteral?.induct generalizing text with
    | case1 => cases h
    | case2 cs =>
        obtain ⟨rfl, rfl⟩ := Prod.mk.inj (Option.some.inj h)
        exact ⟨[], rfl, rfl⟩
    | case3 => cases h
    | case4 c cs ih =>
        obtain ⟨text, h_rest, rfl⟩ := exists_of_scanLiteral?_written_append (.escaped c) h
        obtain ⟨items, rfl, rfl⟩ := ih h_rest
        exact ⟨.escaped c :: items, rfl, rfl⟩
    | case5 c cs h_quote h_end h_escape ih =>
        have h_backslash : c ≠ '\\' := by
          cases cs with
          | nil => exact fun hc => h_end hc rfl
          | cons next cs => exact fun hc => h_escape next cs hc rfl
        obtain ⟨text, h_rest, rfl⟩ :=
          exists_of_scanLiteral?_written_append (.plain c h_quote h_backslash) h
        obtain ⟨items, rfl, rfl⟩ := ih h_rest
        exact ⟨.plain c h_quote h_backslash :: items, rfl, rfl⟩
  · rintro ⟨items, rfl, rfl⟩
    induction items with
    | nil => rfl
    | cons item items ih =>
        rw [List.flatMap_cons, List.append_assoc, scanLiteral?_written_append, ih,
          List.flatMap_cons]
        rfl

/-! ## What stands before the literal -/

/-- Whether a text inside `depth` parentheses closes at no point more than are open. -/
def StaysOpen (depth : Nat) (cs : List Char) : Prop :=
  ∀ part, part <+: cs → part.count ')' ≤ depth + part.count '('

/-- The number of parentheses that are open behind a character; `none` if it closes one and
none is open. -/
def depthBehind? : Nat → Char → Option Nat
  | depth, '(' => some (depth + 1)
  | 0, ')' => none
  | depth + 1, ')' => some depth
  | depth, _ => some depth

theorem staysOpen_nil (depth : Nat) : StaysOpen depth [] := by
  intro part hpart
  rw [List.prefix_nil.1 hpart]
  exact Nat.zero_le _

theorem staysOpen_cons {depth : Nat} {c : Char} {cs : List Char} :
    StaysOpen depth (c :: cs) ↔ ∃ depth', depthBehind? depth c = some depth' ∧
      StaysOpen depth' cs := by
  have h_behind : StaysOpen depth (c :: cs) ↔
      ∀ part, part <+: cs → (c :: part).count ')' ≤ depth + (c :: part).count '(' := by
    constructor
    · intro h part hpart
      exact h (c :: part) (List.cons_prefix_cons.2 ⟨rfl, hpart⟩)
    · intro h part hpart
      rcases List.prefix_cons_iff.1 hpart with rfl | ⟨part', rfl, hpart'⟩
      · exact Nat.zero_le _
      · exact h part' hpart'
  rw [h_behind]
  fun_cases depthBehind? depth c with
  | case1 depth => simp [StaysOpen, Nat.add_right_comm, Nat.add_assoc]
  | case2 =>
      refine iff_of_false (fun h => ?_) (by simp)
      exact absurd (h [] List.nil_prefix) (by decide)
  | case3 depth => simp [StaysOpen, Nat.add_right_comm]
  | case4 depth c h_open h_close h_close' =>
      have h_not_open : c ≠ '(' := h_open
      have h_not_close : c ≠ ')' := by
        cases depth with
        | zero => exact h_close rfl
        | succ depth => exact h_close' depth rfl
      simp [StaysOpen, h_not_open, h_not_close]

theorem staysOpen_of_not_mem {cs : List Char} (h : ')' ∉ cs) (depth : Nat) :
    StaysOpen depth cs := by
  intro part hpart
  rw [List.count_eq_zero.2 fun h_mem => h (hpart.subset h_mem)]
  exact Nat.zero_le _

theorem staysOpen_iff_isSome (depth : Nat) (cs : List Char) :
    StaysOpen depth cs ↔ (cs.foldlM depthBehind? depth).isSome := by
  induction cs generalizing depth with
  | nil => exact iff_of_true (staysOpen_nil depth) rfl
  | cons c cs ih =>
      rw [staysOpen_cons, List.foldlM_cons]
      cases depthBehind? depth c with
      | none => simp
      | some depth' => simp [ih]

/-! ## Argument lists -/

theorem scanArguments_quote (depth : Nat) (inside : List Char) :
    scanArguments depth ('"' :: inside) =
      (scanLiteral? inside).elim .unterminated fun read => .tag read.1 read.2 := by
  rw [scanArguments]
  cases scanLiteral? inside with
  | none => rfl
  | some read => rfl

theorem scanArguments_cons {c : Char} (h : c ≠ '"') (depth : Nat) (cs : List Char) :
    scanArguments depth (c :: cs) =
      (depthBehind? depth c).elim .untagged fun depth' => scanArguments depth' cs := by
  fun_cases depthBehind? depth c with
  | case1 depth => rfl
  | case2 => rfl
  | case3 depth => rfl
  | case4 depth c h_open h_close h_close' =>
      rw [scanArguments]
      · rfl
      · exact h
      · exact h_open
      · exact h_close
      · exact h_close'

/-- A scan gets through a text without quotes exactly if the text stays open. -/
theorem scanArguments_append {part : List Char} (h : '"' ∉ part) (depth : Nat)
    (cs : List Char) :
    scanArguments depth (part ++ cs) =
      (part.foldlM depthBehind? depth).elim .untagged fun depth' => scanArguments depth' cs := by
  induction part generalizing depth with
  | nil => rfl
  | cons c part ih =>
      rw [List.mem_cons, not_or] at h
      rw [List.cons_append, scanArguments_cons (Ne.symm h.1), List.foldlM_cons]
      cases depthBehind? depth c with
      | none => rfl
      | some depth' => exact ih h.2 depth'

theorem scanArguments_of_not_mem {cs : List Char} (h : '"' ∉ cs) (depth : Nat) :
    scanArguments depth cs = .untagged := by
  rw [← List.append_nil cs, scanArguments_append h]
  cases cs.foldlM depthBehind? depth with
  | none => rfl
  | some depth' => rw [Option.elim_some, scanArguments]

theorem scanArguments_append_quote {part : List Char} (h : '"' ∉ part) {depth : Nat}
    (h_stays : StaysOpen depth part) (inside : List Char) :
    scanArguments depth (part ++ '"' :: inside) =
      (scanLiteral? inside).elim .unterminated fun read => .tag read.1 read.2 := by
  rw [staysOpen_iff_isSome, Option.isSome_iff_exists] at h_stays
  obtain ⟨depth', h_open⟩ := h_stays
  rw [scanArguments_append h, h_open, Option.elim_some, scanArguments_quote]

theorem scanArguments_append_of_not_staysOpen {part : List Char} (h : '"' ∉ part)
    {depth : Nat} (h_stays : ¬StaysOpen depth part) (cs : List Char) :
    scanArguments depth (part ++ cs) = .untagged := by
  rw [staysOpen_iff_isSome, Option.not_isSome_iff_eq_none] at h_stays
  rw [scanArguments_append h, h_stays, Option.elim_none]

/-- Whether a text, from behind the parenthesis of a call up to the quote that closes its
literal, holds a tag: first what stands before the literal, then the items of the literal. -/
def HoldsTag (read text : List Char) : Prop :=
  ∃ (argument : List Char) (items : List LiteralItem), '"' ∉ argument ∧ StaysOpen 0 argument ∧
    read = argument ++ '"' :: (items.flatMap LiteralItem.written ++ ['"']) ∧
    text = items.flatMap LiteralItem.meant

theorem HoldsTag.subset {read text : List Char} (h : HoldsTag read text) : text ⊆ read := by
  obtain ⟨argument, items, -, -, rfl, rfl⟩ := h
  intro c hc
  obtain ⟨item, h_item, hc⟩ := List.mem_flatMap.1 hc
  have h_written : c ∈ items.flatMap LiteralItem.written :=
    List.mem_flatMap.2 ⟨item, h_item, item.meant_subset_written hc⟩
  exact List.mem_append_right argument
    (List.mem_cons_of_mem '"' (List.mem_append_left ['"'] h_written))

theorem scanArguments_eq_tag_iff {cs text rest : List Char} :
    scanArguments 0 cs = .tag text rest ↔ ∃ read, HoldsTag read text ∧ cs = read ++ rest := by
  constructor
  · intro h
    -- only the first quote can open the literal, and only if the scan gets there
    by_cases h_quote : '"' ∈ cs
    · obtain ⟨argument, inside, rfl, h_argument⟩ := List.eq_append_cons_of_mem h_quote
      by_cases h_stays : StaysOpen 0 argument
      · rw [scanArguments_append_quote h_argument h_stays] at h
        cases h_literal : scanLiteral? inside with
        | none =>
            rw [h_literal] at h
            cases h
        | some read =>
            rw [h_literal] at h
            obtain ⟨rfl, rfl⟩ := ArgumentScan.tag.inj h
            obtain ⟨items, rfl, h_text⟩ := scanLiteral?_eq_some_iff.1 h_literal
            exact ⟨_, ⟨argument, items, h_argument, h_stays, rfl, h_text⟩, by simp⟩
      · rw [scanArguments_append_of_not_staysOpen h_argument h_stays] at h
        cases h
    · rw [scanArguments_of_not_mem h_quote] at h
      cases h
  · rintro ⟨read, ⟨argument, items, h_argument, h_stays, rfl, rfl⟩, rfl⟩
    have h_literal : scanLiteral? (items.flatMap LiteralItem.written ++ '"' :: rest) =
        some (items.flatMap LiteralItem.meant, rest) :=
      scanLiteral?_eq_some_iff.2 ⟨items, rfl, rfl⟩
    rw [List.append_assoc, List.cons_append, scanArguments_append_quote h_argument h_stays,
      List.append_assoc, List.singleton_append, h_literal, Option.elim_some]

/-- Whether no literal starts in an argument list: it has no quote, or before the first quote
more parentheses close than open. -/
def StartsNoLiteral (cs : List Char) : Prop :=
  '"' ∉ cs ∨ ∃ part, part <+: cs ∧ '"' ∉ part ∧ part.count '(' < part.count ')'

theorem scanArguments_eq_untagged_iff {cs : List Char} :
    scanArguments 0 cs = .untagged ↔ StartsNoLiteral cs := by
  constructor
  · intro h
    rw [StartsNoLiteral, or_iff_not_imp_left, not_not]
    intro h_quote
    obtain ⟨argument, inside, rfl, h_argument⟩ := List.eq_append_cons_of_mem h_quote
    have h_stays : ¬StaysOpen 0 argument := by
      intro h_stays
      rw [scanArguments_append_quote h_argument h_stays] at h
      cases h_literal : scanLiteral? inside with
      | none =>
          rw [h_literal] at h
          cases h
      | some read =>
          rw [h_literal] at h
          cases h
    obtain ⟨part, h_part, h_count⟩ : ∃ part, part <+: argument ∧
        part.count '(' < part.count ')' := by simpa [StaysOpen] using h_stays
    exact ⟨part, h_part.trans (List.prefix_append _ _), fun h => h_argument (h_part.subset h),
      h_count⟩
  · rintro (h_quote | ⟨part, ⟨rest, rfl⟩, h_part, h_count⟩)
    · exact scanArguments_of_not_mem h_quote 0
    · refine scanArguments_append_of_not_staysOpen h_part (fun h_stays => ?_) rest
      have h_le := h_stays part List.prefix_rfl
      omega

/-- A literal is taken to be open where one starts and none is closed. -/
theorem scanArguments_eq_unterminated_iff {source : String} :
    scanArguments 0 source.toList = .unterminated ↔
      (¬∃ read rest tag : String, source = read ++ rest ∧ HoldsTag read.toList tag.toList) ∧
        ¬StartsNoLiteral source.toList := by
  rw [← scanArguments_eq_untagged_iff]
  cases h_scan : scanArguments 0 source.toList with
  | tag text rest =>
      obtain ⟨read, h_holds, h_source⟩ := scanArguments_eq_tag_iff.1 h_scan
      have h_split : source = String.ofList read ++ String.ofList rest := by
        rw [← String.ofList_append, ← h_source, String.ofList_toList]
      refine iff_of_false ArgumentScan.noConfusion fun h => h.1 ?_
      exact ⟨_, _, String.ofList text, h_split, by simpa using h_holds⟩
  | untagged => exact iff_of_false ArgumentScan.noConfusion fun h => h.2 rfl
  | unterminated =>
      refine iff_of_true rfl ⟨?_, ArgumentScan.noConfusion⟩
      rintro ⟨read, rest, tag, rfl, h_holds⟩
      have h_tag : scanArguments 0 (read ++ rest).toList = .tag tag.toList rest.toList :=
        scanArguments_eq_tag_iff.2 ⟨read.toList, h_holds, String.toList_append⟩
      rw [h_scan] at h_tag
      cases h_tag

/-- Whether the scan of an argument list gives a tag and goes on `n` bytes further. -/
def ReadsTag (source tag : String) (n : Nat) : Prop :=
  ∃ rest : String, scanArguments 0 source.toList = .tag tag.toList rest.toList ∧
    source.utf8ByteSize = n + rest.utf8ByteSize

theorem readsTag_iff {source tag : String} {n : Nat} :
    ReadsTag source tag n ↔ ∃ read rest : String, source = read ++ rest ∧
      read.utf8ByteSize = n ∧ HoldsTag read.toList tag.toList := by
  constructor
  · rintro ⟨rest, h_scan, h_size⟩
    obtain ⟨read, h_holds, h_source⟩ := scanArguments_eq_tag_iff.1 h_scan
    have h_split : source = String.ofList read ++ rest := by
      rw [← String.toList_inj, String.toList_append, String.toList_ofList, h_source]
    rw [h_split, String.utf8ByteSize_append] at h_size
    exact ⟨String.ofList read, rest, h_split, by omega, by rwa [String.toList_ofList]⟩
  · rintro ⟨read, rest, rfl, rfl, h_holds⟩
    exact ⟨rest, scanArguments_eq_tag_iff.2 ⟨read.toList, h_holds, String.toList_append⟩,
      String.utf8ByteSize_append⟩

/-! ## Argument lists by byte counts -/

/-- What an argument list turned out to hold, told by the number of bytes read. -/
inductive MeasuredScan
  /-- A closed literal: its text, and the number of bytes up to behind the closing quote. -/
  | tag (text : List Char) (bytes : Nat)
  | untagged
  | unterminated
  deriving DecidableEq, Repr

/-- The text of a literal whose opening quote has been read, and the offset behind its closing
quote, when the text inside starts at the offset `n`. -/
def measureLiteral? : Nat → List Char → Option (List Char × Nat)
  | _, [] => none
  | n, '"' :: _ => some ([], n + 1)
  | _, ['\\'] => none
  | n, '\\' :: c :: cs =>
    (measureLiteral? (n + 1 + c.utf8Size) cs).map fun read =>
      (if c = '"' || c = '\\' then c :: read.1 else '\\' :: c :: read.1, read.2)
  | n, c :: cs => (measureLiteral? (n + c.utf8Size) cs).map fun read => (c :: read.1, read.2)

/-- Scans an argument list at the offset `n` from inside `depth` nested parentheses. -/
def measureArguments : (depth n : Nat) → List Char → MeasuredScan
  | _, _, [] => .untagged
  | _, n, '"' :: cs =>
    (measureLiteral? (n + 1) cs).elim .unterminated fun read => .tag read.1 read.2
  | depth, n, '(' :: cs => measureArguments (depth + 1) (n + 1) cs
  | 0, _, ')' :: _ => .untagged
  | depth + 1, n, ')' :: cs => measureArguments depth (n + 1) cs
  | depth, n, c :: cs => measureArguments depth (n + c.utf8Size) cs

/-- A scan of a text that ends at the offset `stop`, told by the number of bytes read. -/
def ArgumentScan.measured (stop : Nat) : ArgumentScan → MeasuredScan
  | tag text rest => .tag text (stop - utf8Len rest)
  | untagged => .untagged
  | unterminated => .unterminated

namespace ArgumentScan

variable {stop : Nat} {scan : ArgumentScan}

theorem measured_eq_untagged_iff : scan.measured stop = .untagged ↔ scan = .untagged := by
  cases scan with
  | _ => simp [measured]

theorem measured_eq_unterminated_iff :
    scan.measured stop = .unterminated ↔ scan = .unterminated := by
  cases scan with
  | _ => simp [measured]

end ArgumentScan

theorem measureLiteral?_eq (n : Nat) (cs : List Char) :
    measureLiteral? n cs =
      (scanLiteral? cs).map fun read => (read.1, n + utf8Len cs - utf8Len read.2) := by
  fun_induction measureLiteral? n cs with
  | case1 => rfl
  | case2 n cs =>
      rw [scanLiteral?, Option.map_some, Text.add_utf8Len_cons, Nat.add_sub_cancel]
      rfl
  | case3 => rfl
  | case4 n c cs ih =>
      rw [scanLiteral?, ih, Text.add_utf8Len_cons, Text.add_utf8Len_cons, Option.map_map,
        Option.map_map]
      refine congrArg (Option.map · _) (funext fun read => ?_)
      rw [Function.comp_apply, Function.comp_apply]
      split
      · rfl
      · rfl
  | case5 n c cs h_quote h_end h_escape ih =>
      rw [scanLiteral?, ih, Text.add_utf8Len_cons, Option.map_map, Option.map_map]
      · rfl
      · exact h_quote
      · exact h_end
      · exact h_escape

/-- The bytes counted while reading are those in front of what is left. -/
theorem measureArguments_eq (depth n : Nat) (cs : List Char) :
    measureArguments depth n cs = (scanArguments depth cs).measured (n + utf8Len cs) := by
  fun_induction measureArguments depth n cs with
  | case1 => rfl
  | case2 depth n cs =>
      rw [measureLiteral?_eq, scanArguments_quote, Text.add_utf8Len_cons]
      cases scanLiteral? cs with
      | none => rfl
      | some read => rfl
  | case3 depth n cs ih =>
      rw [ih, Text.add_utf8Len_cons, scanArguments]
      rfl
  | case4 => rfl
  | case5 depth n cs ih =>
      rw [ih, Text.add_utf8Len_cons, scanArguments]
      rfl
  | case6 depth n c cs h_quote h_open h_close h_close' ih =>
      rw [ih, Text.add_utf8Len_cons, scanArguments]
      · exact h_quote
      · exact h_open
      · exact h_close
      · exact h_close'

/-- What is left behind a tag is an end of the argument list, with the closing quote in front. -/
theorem suffix_of_scanArguments {cs text rest : List Char}
    (h : scanArguments 0 cs = .tag text rest) : '"' :: rest <:+ cs := by
  obtain ⟨read, ⟨argument, items, -, -, rfl, -⟩, rfl⟩ := scanArguments_eq_tag_iff.1 h
  exact ⟨argument ++ '"' :: items.flatMap LiteralItem.written, by simp⟩

/-- The bytes of a tag, told by sizes in `ReadsTag`, are those that are counted. -/
theorem measureArguments_eq_tag_iff {source tag : String} {n : Nat} :
    measureArguments 0 0 source.toList = .tag tag.toList n ↔ ReadsTag source tag n := by
  rw [measureArguments_eq, Nat.zero_add, ReadsTag]
  cases h_scan : scanArguments 0 source.toList with
  | tag text rest =>
      obtain ⟨inside, h_source⟩ := suffix_of_scanArguments h_scan
      have h_le : utf8Len rest ≤ utf8Len source.toList := by
        rw [← h_source, List.append_cons]
        exact String.utf8Len_le_of_suffix (List.suffix_append _ rest)
      simp only [ArgumentScan.measured, MeasuredScan.tag.injEq, ArgumentScan.tag.injEq,
        ← String.utf8Len_toList]
      constructor
      · rintro ⟨rfl, rfl⟩
        refine ⟨String.ofList rest, ⟨rfl, String.toList_ofList.symm⟩, ?_⟩
        rw [String.toList_ofList, Nat.sub_add_cancel h_le]
      · rintro ⟨rest', ⟨rfl, rfl⟩, h_size⟩
        refine ⟨rfl, ?_⟩
        rw [h_size, Nat.add_sub_cancel]
  | untagged => simp [ArgumentScan.measured]
  | unterminated => simp [ArgumentScan.measured]

/-! ## The grammar -/

/-- A scan accepts exactly its grammar. It reads a tag and goes on behind `n` bytes if the
first `n` bytes hold that tag, it gives up if no literal starts, and in all other cases it
takes a literal to be left open. A scan that counts the bytes comes to the same. -/
theorem scanArguments_grammar (source : String) :
    (∀ tag n, ReadsTag source tag n ↔ ∃ read rest : String, source = read ++ rest ∧
      read.utf8ByteSize = n ∧ HoldsTag read.toList tag.toList) ∧
    (scanArguments 0 source.toList = .untagged ↔ StartsNoLiteral source.toList) ∧
    (scanArguments 0 source.toList = .unterminated ↔
      (¬∃ read rest tag : String, source = read ++ rest ∧ HoldsTag read.toList tag.toList) ∧
        ¬StartsNoLiteral source.toList) ∧
    (∀ tag n, measureArguments 0 0 source.toList = .tag tag.toList n ↔ ReadsTag source tag n) ∧
    (measureArguments 0 0 source.toList = .untagged ↔
      scanArguments 0 source.toList = .untagged) ∧
    (measureArguments 0 0 source.toList = .unterminated ↔
      scanArguments 0 source.toList = .unterminated) := by
  have h_measured := measureArguments_eq 0 0 source.toList
  refine ⟨fun tag n => readsTag_iff, scanArguments_eq_untagged_iff,
    scanArguments_eq_unterminated_iff, fun tag n => measureArguments_eq_tag_iff, ?_, ?_⟩
  · rw [h_measured, ArgumentScan.measured_eq_untagged_iff]
  · rw [h_measured, ArgumentScan.measured_eq_unterminated_iff]

end Showcase
