/-!
# Reading the tag of a marker call

A marker call carries its tag as the first string literal of its argument list. Reading
starts behind the opening parenthesis: arguments before the literal are skipped, with
their own parentheses balanced, and the literal is read up to its closing quote. Only
`\"` and `\\` are escapes, any other backslash stands for itself.
-/

namespace Showcase

/-- What an argument list turned out to hold. -/
inductive ArgumentScan
  /-- A closed literal: its text and what follows the closing quote. -/
  | tag (text rest : List Char)
  /-- The list closes, or the line ends, before a literal starts. -/
  | untagged
  /-- A literal runs to the end of the line. -/
  | unterminated
  deriving DecidableEq, Repr

/-- The text of a literal whose opening quote has been read, with what follows its closing
quote; `none` when it is not closed. -/
def scanLiteral? : List Char → Option (List Char × List Char)
  | [] => none
  | '"' :: cs => some ([], cs)
  | ['\\'] => none
  | '\\' :: c :: cs =>
    (scanLiteral? cs).map fun (text, rest) =>
      (if c = '"' || c = '\\' then (c :: text, rest) else ('\\' :: c :: text, rest))
  | c :: cs => (scanLiteral? cs).map fun (text, rest) => (c :: text, rest)

/-- Scans an argument list from inside `depth` nested parentheses. -/
def scanArguments : Nat → List Char → ArgumentScan
  | _, [] => .untagged
  | _, '"' :: cs =>
    match scanLiteral? cs with
    | some (text, rest) => .tag text rest
    | none => .unterminated
  | depth, '(' :: cs => scanArguments (depth + 1) cs
  | 0, ')' :: _ => .untagged
  | depth + 1, ')' :: cs => scanArguments depth cs
  | depth, _ :: cs => scanArguments depth cs

theorem length_lt_of_scanLiteral? {cs text rest : List Char}
    (h : scanLiteral? cs = some (text, rest)) : rest.length < cs.length := by
  fun_induction scanLiteral? cs generalizing text with
  | case1 => simp at h
  | case2 cs => simp_all
  | case3 => simp at h
  | case4 c cs ih =>
    obtain ⟨⟨t, r⟩, hr, heq⟩ := Option.map_eq_some_iff.1 h
    have hrest : r = rest := by
      dsimp only at heq
      split at heq <;> exact (Prod.mk.inj heq).2
    subst hrest
    have := ih hr
    simp only [List.length_cons]
    omega
  | case5 c cs _ _ _ ih =>
    obtain ⟨⟨t, r⟩, hr, heq⟩ := Option.map_eq_some_iff.1 h
    obtain ⟨-, rfl⟩ := Prod.mk.inj heq
    have := ih hr
    simp only [List.length_cons]
    omega

/-- A tag is followed by less than the scan was given. -/
theorem length_lt_of_scanArguments {depth : Nat} {cs text rest : List Char}
    (h : scanArguments depth cs = .tag text rest) : rest.length < cs.length := by
  fun_induction scanArguments depth cs with
  | case1 => simp at h
  | case2 _ cs t r hr =>
    obtain ⟨rfl, rfl⟩ := ArgumentScan.tag.inj h
    have := length_lt_of_scanLiteral? hr
    simp only [List.length_cons]
    omega
  | case3 => simp at h
  | case4 _ cs ih =>
    have := ih h
    simp only [List.length_cons]
    omega
  | case5 => simp at h
  | case6 _ cs ih =>
    have := ih h
    simp only [List.length_cons]
    omega
  | case7 _ c cs _ _ _ _ ih =>
    have := ih h
    simp only [List.length_cons]
    omega

end Showcase
