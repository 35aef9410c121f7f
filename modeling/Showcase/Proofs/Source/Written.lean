import Showcase.Proofs.Source.LineByLine

/-!
# Sources written by convention

A source names its sections by calls of a marker, each with a tag literal, several of them
on a line behind each other. `writeLines` writes such a source: a call is the name, some
spaces, an opening parenthesis, what stands before the literal, and the literal, in which
quotes and backslashes are escaped.

Scanning finds what was written. The scan of a line goes from call to call: a call is
found where it starts, its literal is read back up to its own closing quote, and from there
nothing but the separator is passed before the next call. A call that stands inside a
literal is therefore never met.
-/

namespace Showcase

/-- A name made of ASCII letters, digits and underscores, the first one no digit, with or
without an exclamation mark at its end. -/
structure PlainName where
  first : Char
  rest : List Char
  bang : Bool
  first_plain : first.isAlpha = true ∨ first = '_'
  rest_plain : ∀ c ∈ rest, c.isAlphanum = true ∨ c = '_'

namespace PlainName

def chars (name : PlainName) : List Char :=
  name.first :: name.rest ++ if name.bang then ['!'] else []

def marker (name : PlainName) : Marker where
  name := String.ofList name.chars
  name_ne_empty := by simp [chars]

end PlainName

/-- A call of a marker: the number of spaces behind the name, what stands before the tag
literal, and the tag. -/
structure WrittenCall where
  spaces : Nat
  argument : List Char
  tag : List Char
  argument_plain : ∀ c ∈ argument, c ≠ '"' ∧ c ≠ '(' ∧ c ≠ ')' ∧ c ≠ '\n'
  tag_not_blank : Text.isBlankText tag = false
  lineFeed_not_mem_tag : '\n' ∉ tag

/-- The inside of a literal with the given text. -/
def escape : List Char → List Char
  | [] => []
  | c :: cs => if c = '"' ∨ c = '\\' then '\\' :: c :: escape cs else c :: escape cs

namespace PlainName

/-- A call as it is written. -/
def writeCall (name : PlainName) (call : WrittenCall) : List Char :=
  name.chars ++ (List.replicate call.spaces ' ' ++
    '(' :: (call.argument ++ '"' :: (escape call.tag ++ ['"', ')'])))

/-- The calls of a line, with a semicolon and a space between two of them. -/
def writeLine (name : PlainName) : List WrittenCall → List Char
  | [] => []
  | [call] => name.writeCall call
  | call :: calls => name.writeCall call ++ ';' :: ' ' :: name.writeLine calls

/-- A source with the given calls on its lines. -/
def writeLines (name : PlainName) (withReturn : Bool) (lines : List (List WrittenCall)) :
    String :=
  String.ofList (Text.joinLines withReturn (lines.map name.writeLine))

end PlainName

/-! ## The literal and the argument list -/

/-- A literal is read up to its own closing quote. -/
theorem scanLiteral?_escape (tag rest : List Char) :
    scanLiteral? (escape tag ++ '"' :: rest) = some (tag, rest) := by
  induction tag with
  | nil => rfl
  | cons c cs ih =>
      rw [escape]
      by_cases hc : c = '"' ∨ c = '\\'
      · have h_item := scanLiteral?_written_append (.escaped c) (escape cs ++ '"' :: rest)
        rw [ih, LiteralItem.meant, if_pos hc] at h_item
        rw [if_pos hc]
        exact h_item
      · have h_item := scanLiteral?_written_append
          (.plain c (fun h => hc (.inl h)) fun h => hc (.inr h)) (escape cs ++ '"' :: rest)
        rw [ih] at h_item
        rw [if_neg hc]
        exact h_item

theorem scanArguments_call (call : WrittenCall) (rest : List Char) :
    scanArguments 0 (call.argument ++ '"' :: (escape call.tag ++ '"' :: rest)) =
      .tag call.tag rest := by
  have h_quote : '"' ∉ call.argument := fun h => (call.argument_plain _ h).1 rfl
  have h_close : ')' ∉ call.argument := fun h => (call.argument_plain _ h).2.2.1 rfl
  rw [scanArguments_append_quote h_quote (staysOpen_of_not_mem h_close 0), scanLiteral?_escape,
    Option.elim_some]

/-! ## The name -/

namespace PlainName

theorem toNat_of_isAlphanum {c : Char} (h : c.isAlphanum = true) :
    0x20 < c.toNat ∧ c.toNat < 0x7f := by
  have h_kinds : (c.isUpper || c.isLower || c.isDigit) = true := h
  rw [Bool.or_eq_true, Bool.or_eq_true] at h_kinds
  rcases h_kinds with (h_upper | h_lower) | h_digit
  · obtain ⟨hlow, hhigh⟩ : 0x41 ≤ c.toNat ∧ c.toNat ≤ 0x5a := of_decide_eq_true h_upper
    omega
  · obtain ⟨hlow, hhigh⟩ := Bool.and_eq_true_iff.1 h_lower
    have h_ge : 0x61 ≤ c.toNat := of_decide_eq_true hlow
    have h_le : c.toNat ≤ 0x7a := of_decide_eq_true hhigh
    omega
  · obtain ⟨hlow, hhigh⟩ := Bool.and_eq_true_iff.1 h_digit
    have h_ge : 0x30 ≤ c.toNat := of_decide_eq_true hlow
    have h_le : c.toNat ≤ 0x39 := of_decide_eq_true hhigh
    omega

theorem toNat_of_mem_chars {name : PlainName} {c : Char} (h : c ∈ name.chars) :
    0x20 < c.toNat ∧ c.toNat < 0x7f := by
  have h_plain {c : Char} (hc : c.isAlphanum = true ∨ c = '_') :
      0x20 < c.toNat ∧ c.toNat < 0x7f := by
    rcases hc with hc | rfl
    · exact toNat_of_isAlphanum hc
    · decide
  rw [chars, List.mem_append, List.mem_cons] at h
  rcases h with (rfl | h) | h
  · exact h_plain (name.first_plain.imp_left fun h => by simp [Char.isAlphanum, h])
  · exact h_plain (name.rest_plain c h)
  · split at h
    · obtain rfl := List.mem_singleton.1 h
      decide
    · cases h

theorem isBlank_of_mem_chars {name : PlainName} {c : Char} (h : c ∈ name.chars) :
    Text.isBlank c = false := by
  obtain ⟨hlow, hhigh⟩ := toNat_of_mem_chars h
  rw [Text.isBlank, decide_eq_false_iff_not, Text.CodePoints.mem_iff]
  simp only [Text.whiteSpace, List.mem_cons, List.not_mem_nil, or_false, exists_eq_or_imp,
    exists_eq_left]
  omega

theorem isWordChar_first (name : PlainName) : Text.isWordChar name.first = true := by
  have hmem : name.first ∈ name.chars := List.mem_cons_self
  obtain ⟨-, hhigh⟩ := toNat_of_mem_chars hmem
  have hascii : name.first.toNat < 0x80 := by omega
  rw [Text.isWordChar, if_pos hascii]
  rcases name.first_plain with h | h
  · simp [Char.isAlphanum, h]
  · simp [h]

/-- The name has no blanks around it, so the marker made from it is its own. -/
theorem ofText_chars (name : PlainName) :
    Marker.ofText (String.ofList name.chars) = .ok name.marker := by
  have hdrop {cs : List Char} (h : ∀ c ∈ cs, Text.isBlank c = false) :
      Text.dropBlanks cs = cs := by
    cases cs with
    | nil => rfl
    | cons c cs => rw [Text.dropBlanks_cons, h c List.mem_cons_self, if_neg Bool.false_ne_true]
  have htrim : Text.trim (String.ofList name.chars) = String.ofList name.chars := by
    have hblank : ∀ c ∈ name.chars, Text.isBlank c = false :=
      fun _ hc => isBlank_of_mem_chars hc
    have hreverse : ∀ c ∈ name.chars.reverse, Text.isBlank c = false :=
      fun c hc => hblank c (List.mem_reverse.1 hc)
    rw [Text.trim, String.toList_ofList, Text.trimBlanks, hdrop hblank, hdrop hreverse,
      List.reverse_reverse]
  have hne : String.ofList name.chars ≠ "" := name.marker.name_ne_empty
  simp only [Marker.ofText, htrim, hne]
  rfl

/-! ## Finding the calls -/

/-- No call starts at a character that the name does not start with. -/
theorem nextCall?_cons_of_ne {name : PlainName} {c : Char} (before : Option Char)
    (cs : List Char) (h : name.first ≠ c) :
    name.marker.nextCall? before (c :: cs) = name.marker.nextCall? (some c) cs := by
  have hafter : Text.after? name.marker.name.toList (c :: cs) = none := by
    simp [marker, chars, Text.after?, h]
  have hhere : name.marker.callHere? before (c :: cs) = none := by
    rw [Marker.callHere?, hafter]
    exact ite_self none
  rw [Marker.nextCall?, hhere]

/-- Behind a character that is no word character, the name, spaces and a parenthesis make
a call. -/
theorem nextCall?_chars (name : PlainName) {before : Option Char}
    (hb : before.any Text.isWordChar = false) (spaces : Nat) (rest : List Char) :
    name.marker.nextCall? before
      (name.chars ++ (List.replicate spaces ' ' ++ '(' :: rest)) = some rest := by
  have hspace : Text.isBlank ' ' = true := by decide
  have hboundary (cs : List Char) :
      Text.isWordBoundary before (name.chars ++ cs).head? = true := by
    rw [chars, List.cons_append, List.cons_append, List.head?_cons, Text.isWordBoundary, hb,
      Option.any_some, name.isWordChar_first]
    rfl
  have hhere : name.marker.callHere? before
      (name.chars ++ (List.replicate spaces ' ' ++ '(' :: rest)) = some rest := by
    rw [Marker.callHere?_eq_some_iff]
    refine ⟨fun _ => hboundary _, List.replicate spaces ' ', ?_, ?_⟩
    · intro c hc
      rw [List.eq_of_mem_replicate hc, hspace]
    · rw [marker, String.toList_ofList]
  rw [chars, List.cons_append, List.cons_append] at hhere ⊢
  rw [Marker.nextCall?, hhere]

/-- A call as it is written is found, and the scan goes on behind its literal. -/
theorem scanFrom_writeCall (name : PlainName) {before : Option Char}
    (hb : before.any Text.isWordChar = false) (call : WrittenCall) (rest : List Char) :
    name.marker.scanFrom before (name.writeCall call ++ rest) =
      .tag call.tag :: name.marker.scanFrom (some '"') (')' :: rest) := by
  have h_eq : name.writeCall call ++ rest =
      name.chars ++ (List.replicate call.spaces ' ' ++
        '(' :: (call.argument ++ '"' :: (escape call.tag ++ '"' :: ')' :: rest))) := by
    simp [writeCall]
  rw [h_eq, Marker.scanFrom_eq, nextCall?_chars name hb]
  simp only [scanArguments_call]

theorem first_ne_of_isWordChar {name : PlainName} {c : Char} (h : Text.isWordChar c = false) :
    name.first ≠ c := by
  rintro rfl
  rw [name.isWordChar_first] at h
  cases h

/-- The calls of a line are found, each with its tag, whatever the tags hold. -/
theorem scanFrom_writeLine (name : PlainName) {before : Option Char}
    (hb : before.any Text.isWordChar = false) (calls : List WrittenCall) :
    name.marker.scanFrom before (name.writeLine calls) = calls.map fun c => .tag c.tag := by
  have hclose : name.first ≠ ')' := first_ne_of_isWordChar (by decide)
  have hsemicolon : name.first ≠ ';' := first_ne_of_isWordChar (by decide)
  have hspace : name.first ≠ ' ' := first_ne_of_isWordChar (by decide)
  induction calls generalizing before with
  | nil =>
      rw [writeLine, Marker.scanFrom_eq]
      rfl
  | cons call calls ih =>
      cases calls with
      | nil =>
          have hend : name.marker.scanFrom (some '"') [')'] = [] := by
            rw [Marker.scanFrom_eq, nextCall?_cons_of_ne _ _ hclose]
            rfl
          have hwritten := scanFrom_writeCall name hb call []
          rw [List.append_nil, hend] at hwritten
          exact hwritten
      | cons call' calls =>
          -- nothing of the separator starts a call, so only the space is left before the rest
          have hskip : name.marker.nextCall? (some '"')
              (')' :: ';' :: ' ' :: name.writeLine (call' :: calls)) =
                name.marker.nextCall? (some ' ') (name.writeLine (call' :: calls)) := by
            rw [nextCall?_cons_of_ne _ _ hclose, nextCall?_cons_of_ne _ _ hsemicolon,
              nextCall?_cons_of_ne _ _ hspace]
          have hspace' : (some ' ').any Text.isWordChar = false := by decide
          rw [writeLine, scanFrom_writeCall name hb, Marker.scanFrom_congr hskip, ih hspace']
          · rfl
          · exact List.cons_ne_nil call' calls

/-! ## The lines -/

theorem lineFeed_not_mem_escape {tag : List Char} (h : '\n' ∉ tag) : '\n' ∉ escape tag := by
  induction tag with
  | nil => exact h
  | cons c cs ih =>
      have hc : '\n' ≠ c := List.ne_of_not_mem_cons h
      have hcs : '\n' ∉ escape cs := ih (List.not_mem_of_not_mem_cons h)
      rw [escape]
      split
      · simp [hc, hcs]
      · simp [hc, hcs]

theorem lineFeed_not_mem_writeCall (name : PlainName) (call : WrittenCall) :
    '\n' ∉ name.writeCall call := by
  have hname : '\n' ∉ name.chars := by
    intro h
    obtain ⟨hlow, -⟩ := toNat_of_mem_chars h
    exact absurd hlow (by decide)
  have hargument : '\n' ∉ call.argument := fun h => (call.argument_plain _ h).2.2.2 rfl
  have htag : '\n' ∉ escape call.tag := lineFeed_not_mem_escape call.lineFeed_not_mem_tag
  simp [writeCall, hname, hargument, htag, List.mem_replicate]

theorem lineFeed_not_mem_writeLine (name : PlainName) (calls : List WrittenCall) :
    '\n' ∉ name.writeLine calls := by
  induction calls with
  | nil => exact List.not_mem_nil
  | cons call calls ih =>
      have hcall : '\n' ∉ name.writeCall call := name.lineFeed_not_mem_writeCall call
      cases calls with
      | nil => exact hcall
      | cons call' calls =>
          rw [writeLine]
          · simp [hcall, ih]
          · exact List.cons_ne_nil call' calls

theorem scanLines_map_writeLine (name : PlainName) (first : Nat)
    (lines : List (List WrittenCall)) :
    name.marker.scanLines first (lines.map name.writeLine) =
      (lines.zipIdx first).flatMap fun (calls, line) =>
        calls.map fun c => (line, .tag c.tag) := by
  induction lines generalizing first with
  | nil => rfl
  | cons calls lines ih =>
      have hline : name.marker.scanLine (name.writeLine calls) =
          calls.map fun c => .tag c.tag := name.scanFrom_writeLine (by rfl) calls
      rw [List.map_cons, Marker.scanLines, ih, hline, List.zipIdx_cons, List.flatMap_cons,
        List.map_map]
      rfl

theorem scanLines_writeLines (name : PlainName) (withReturn : Bool)
    (lines : List (List WrittenCall)) :
    name.marker.scanLines 1 (Text.lines (name.writeLines withReturn lines).toList) =
      (lines.zipIdx 1).flatMap fun (calls, line) =>
        calls.map fun c => (line, .tag c.tag) := by
  have h_lines : ∀ l ∈ lines.map name.writeLine, '\n' ∉ l := by
    intro l hl
    obtain ⟨calls, -, rfl⟩ := List.mem_map.1 hl
    exact name.lineFeed_not_mem_writeLine calls
  rw [writeLines, String.toList_ofList, Marker.scanLines_joinLines _ _ _ h_lines,
    scanLines_map_writeLine]

end PlainName

/-- A source written by convention is read without loss: the tags of its calls are found in
order, each on its line, and nothing is reported. -/
theorem parse_writeLines (name : PlainName) (withReturn : Bool)
    (lines : List (List WrittenCall)) :
    Marker.ofText (String.ofList name.chars) = .ok name.marker ∧
      (TaggedSource.parse name.marker (name.writeLines withReturn lines)).tags =
        ((lines.zipIdx 1).flatMap fun (calls, line) =>
          calls.map fun c => ⟨line, String.ofList c.tag⟩) ∧
      (TaggedSource.parse name.marker (name.writeLines withReturn lines)).warnings = [] := by
  refine ⟨name.ofText_chars, ?_, ?_⟩
  · rw [TaggedSource.parse, name.scanLines_writeLines, List.filterMap_flatMap]
    refine congrArg (List.flatMap · _) (funext fun numbered => ?_)
    obtain ⟨calls, line⟩ := numbered
    dsimp only
    rw [List.filterMap_map, ← List.filterMap_eq_map]
    refine congrArg (List.filterMap · calls) (funext fun c => ?_)
    simp [Marker.Finding.tag?, c.tag_not_blank]
  · rw [TaggedSource.parse, name.scanLines_writeLines, List.filterMap_eq_nil_iff]
    intro f hf
    obtain ⟨⟨calls, line⟩, -, hf⟩ := List.mem_flatMap.1 hf
    obtain ⟨c, -, rfl⟩ := List.mem_map.1 hf
    simp [Marker.Finding.warning?, c.tag_not_blank]

/-- A name of a letter, an underscore, a digit and an exclamation mark. -/
def bangName : PlainName where
  first := 'M'
  rest := ['_', '1']
  bang := true
  first_plain := by decide
  rest_plain := by simp

/-- A call whose tag holds quotes, a backslash and a complete call. -/
def nestedCall : WrittenCall where
  spaces := 0
  argument := []
  tag := "a \"b\" \\ M_1!(\"C\")".toList
  argument_plain := by simp
  tag_not_blank := by decide +kernel
  lineFeed_not_mem_tag := by decide +kernel

/-- A call with spaces behind the name and an argument before the tag. -/
def spacedCall : WrittenCall where
  spaces := 2
  argument := ['x', ',', ' ']
  tag := "D".toList
  argument_plain := by simp
  tag_not_blank := by decide
  lineFeed_not_mem_tag := by decide

/-- Both calls on the first line, none on the second, and one on the third. -/
theorem parse_writeLines_nested_call :
    let source := "M_1!(\"a \\\"b\\\" \\\\ M_1!(\\\"C\\\")\"); M_1!  (x, \"D\")\r\n" ++
      "\r\nM_1!  (x, \"D\")"
    bangName.writeLines true [[nestedCall, spacedCall], [], [spacedCall]] = source ∧
      bangName.marker.name = "M_1!" ∧
      (TaggedSource.parse bangName.marker source).tags =
        [⟨1, "a \"b\" \\ M_1!(\"C\")"⟩, ⟨1, "D"⟩, ⟨3, "D"⟩] ∧
      (TaggedSource.parse bangName.marker source).warnings = [] := by
  intro source
  have h_source :
      bangName.writeLines true [[nestedCall, spacedCall], [], [spacedCall]] = source := by
    decide +kernel
  obtain ⟨-, h_tags, h_warnings⟩ :=
    parse_writeLines bangName true [[nestedCall, spacedCall], [], [spacedCall]]
  rw [h_source] at h_tags h_warnings
  exact ⟨h_source, rfl, h_tags, h_warnings⟩

end Showcase
