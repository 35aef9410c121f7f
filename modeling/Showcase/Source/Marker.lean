import Showcase.Error
import Showcase.Source.Argument
import Showcase.Text.Blank
import Showcase.Text.Letter
import Showcase.Text.Search

/-!
# Markers

A marker is the name of the call that tags a section. A call is the name, any blanks and
an opening parenthesis; a name that starts with a letter, a number or an underscore has
to start at a word boundary, so that it is not found at the end of a longer name.

`Marker.scanLine` reads one line: it looks for the next call, reads its tag, and goes on
behind that tag, or right behind the parenthesis of a call without one. Each turn leaves
less of the line than the one before, which is why the scan ends.
-/

namespace Showcase

/-- The name of the call that tags sections. -/
structure Marker where
  name : String
  name_ne_empty : name ≠ ""

namespace Marker

/-- The marker with the given name, blanks around it left aside. -/
def ofText (text : String) : Except BrowseError Marker :=
  let name := Text.trim text
  if h : name = "" then .error (.blankMarker name) else .ok ⟨name, h⟩

def startsWord (m : Marker) : Bool :=
  m.name.toList.head?.any fun c => Text.isAlphanumeric c || c == '_'

/-- What follows the opening parenthesis when a call starts right here, behind the
character `before`. -/
def callHere? (m : Marker) (before : Option Char) (cs : List Char) : Option (List Char) :=
  if m.startsWord && !Text.isWordBoundary before cs.head? then none
  else
    match Text.after? m.name.toList cs with
    | none => none
    | some rest =>
      match Text.dropBlanks rest with
      | '(' :: rest => some rest
      | _ => none

/-- What follows the opening parenthesis of the first call at or behind this position. -/
def nextCall? (m : Marker) : Option Char → List Char → Option (List Char)
  | _, [] => none
  | before, c :: cs =>
    match m.callHere? before (c :: cs) with
    | some rest => some rest
    | none => m.nextCall? (some c) cs

theorem length_lt_of_callHere? {m : Marker} {before : Option Char} {cs rest : List Char}
    (h : m.callHere? before cs = some rest) : rest.length < cs.length := by
  unfold callHere? at h
  split at h
  · simp at h
  · split at h
    · simp at h
    · rename_i r hr
      split at h
      · rename_i r' hr'
        obtain rfl := Option.some.inj h
        have hcs := Text.after?_eq_some_iff.1 hr
        have hle := Text.length_dropBlanks_le r
        rw [hr'] at hle
        simp only [List.length_cons] at hle
        subst hcs
        simp only [List.length_append]
        omega
      · simp at h

theorem length_lt_of_nextCall? {m : Marker} {before : Option Char} {cs rest : List Char}
    (h : m.nextCall? before cs = some rest) : rest.length < cs.length := by
  induction cs generalizing before with
  | nil => simp [nextCall?] at h
  | cons c cs ih =>
    unfold nextCall? at h
    split at h
    · rename_i r hr
      obtain rfl := Option.some.inj h
      exact length_lt_of_callHere? hr
    · have := ih h
      simp only [List.length_cons]
      omega

/-- What a line holds at one of its calls. -/
inductive Finding
  | tag (text : List Char)
  /-- A tag literal that runs to the end of the line. -/
  | unterminated
  deriving DecidableEq, Repr

/-- The findings of a line from a position behind the character `before`, left to right.
A call whose argument list holds no literal is no finding, and nothing is looked for
behind an unterminated literal. -/
def scanFrom (m : Marker) (before : Option Char) (cs : List Char) : List Finding :=
  match _h : m.nextCall? before cs with
  | none => []
  | some rest =>
    match _h' : scanArguments 0 rest with
    | .tag text rest' => .tag text :: m.scanFrom (some '"') rest'
    | .untagged => m.scanFrom (some '(') rest
    | .unterminated => [.unterminated]
termination_by cs.length
decreasing_by
  · exact Nat.lt_trans (length_lt_of_scanArguments _h') (length_lt_of_nextCall? _h)
  · exact length_lt_of_nextCall? _h

def scanLine (m : Marker) (line : List Char) : List Finding :=
  m.scanFrom none line

end Marker

end Showcase
