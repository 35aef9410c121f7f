/-!
# Warnings

Indexing a source never fails. What is wrong with a marker or with a tag is recorded as a
warning about its line, and indexing carries on with the rest.
-/

namespace Showcase

/-- A recoverable problem found while a source is indexed. -/
inductive Warning
  /-- A marker whose tag is not closed on its line. -/
  | unterminatedTag (line : Nat)
  /-- A marker whose tag is blank or has no path segment. -/
  | emptyTag (line : Nat)
  /-- A tag whose path already names a section. -/
  | duplicatePath (line : Nat) (path : String)
  deriving DecidableEq, Repr, Inhabited

namespace Warning

def line : Warning → Nat
  | unterminatedTag l => l
  | emptyTag l => l
  | duplicatePath l _ => l

def message : Warning → String
  | unterminatedTag l => s!"line {l}: unterminated marker tag"
  | emptyTag l => s!"line {l}: empty marker tag"
  | duplicatePath l path => s!"line {l}: duplicate section '{path}'"

/-- Whether the warning is about a tag without a path. -/
def isEmptyTag : Warning → Bool
  | emptyTag _ => true
  | _ => false

end Warning

end Showcase
