/-!
# Lines of a text

A line ends at a line feed, and one carriage return right before that line feed belongs
to the line end. The last line needs no line feed; a text that ends in one has no further
empty line. A carriage return anywhere else, also at the very end of the text, is a
character of its line.
-/

namespace Showcase.Text

def lines : List Char → List (List Char)
  | [] => []
  | '\n' :: cs => [] :: lines cs
  | '\r' :: '\n' :: cs => [] :: lines cs
  | c :: cs =>
    match lines cs with
    | [] => [[c]]
    | l :: ls => (c :: l) :: ls

@[simp] theorem lines_nil : lines [] = [] := rfl

@[simp] theorem lines_lineFeed (cs : List Char) : lines ('\n' :: cs) = [] :: lines cs := rfl

@[simp] theorem lines_return_lineFeed (cs : List Char) :
    lines ('\r' :: '\n' :: cs) = [] :: lines cs := rfl

theorem lineFeed_not_mem_of_mem_lines {cs l : List Char} (h : l ∈ lines cs) : '\n' ∉ l := by
  fun_induction lines cs generalizing l with
  | case1 => simp at h
  | case2 cs ih =>
    rcases List.mem_cons.1 h with rfl | h
    · simp
    · exact ih h
  | case3 cs ih =>
    rcases List.mem_cons.1 h with rfl | h
    · simp
    · exact ih h
  | case4 c cs hc _ _ _ =>
    rw [List.mem_singleton] at h
    subst h
    simpa using fun hn => hc hn.symm
  | case5 c cs hc _ k ls hk ih =>
    rcases List.mem_cons.1 h with rfl | h
    · have hk' : '\n' ∉ k := ih (by simp [hk])
      simpa [hk'] using fun hn => hc hn.symm
    · exact ih (by simp [hk, h])

end Showcase.Text
