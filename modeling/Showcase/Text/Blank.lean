import Showcase.Text.CodePoints

/-!
# Blank characters

Blanks are the characters of the Unicode property `White_Space`. They separate a marker
from its argument list, and they are trimmed from marker names, from the segments of a
tag path and from the search filter. A text of blanks only counts as empty everywhere.
-/

namespace Showcase.Text

def whiteSpace : CodePoints where
  ranges := [
    (0x9, 0xd), (0x20, 0x20), (0x85, 0x85), (0xa0, 0xa0), (0x1680, 0x1680), (0x2000, 0x200a),
    (0x2028, 0x2029), (0x202f, 0x202f), (0x205f, 0x205f), (0x3000, 0x3000)]

def isBlank (c : Char) : Bool :=
  c ∈ whiteSpace

def dropBlanks (cs : List Char) : List Char :=
  cs.dropWhile isBlank

@[simp] theorem dropBlanks_nil : dropBlanks [] = [] := rfl

theorem dropBlanks_cons (c : Char) (cs : List Char) :
    dropBlanks (c :: cs) = if isBlank c then dropBlanks cs else c :: cs := by
  simp [dropBlanks, List.dropWhile_cons]

theorem length_dropBlanks_le (cs : List Char) : (dropBlanks cs).length ≤ cs.length :=
  (List.dropWhile_sublist _).length_le

/-- The characters between the first and the last non-blank, both included. -/
def trimBlanks (cs : List Char) : List Char :=
  (dropBlanks (dropBlanks cs).reverse).reverse

@[simp] theorem trimBlanks_nil : trimBlanks [] = [] := rfl

def isBlankText (cs : List Char) : Bool :=
  cs.all isBlank

def trim (s : String) : String :=
  String.ofList (trimBlanks s.toList)

end Showcase.Text
