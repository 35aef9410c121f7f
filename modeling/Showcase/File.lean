import Showcase.Error
import Showcase.Text.Lossy

/-!
# Files

What the browser can find under a name, how it is read as text, and what it can write. A path
is a list of bytes; most paths are texts, but the operating system does not ask for it.
-/

namespace Showcase

/-- What stands under the name of a file. -/
inductive FileContent
  | missing
  | directory
  | bytes (content : ByteArray)

namespace FileContent

def isMissing : FileContent → Bool
  | missing => true
  | _ => false

def ofText (text : String) : FileContent :=
  .bytes text.toUTF8

def text : FileContent → Except FileError String
  | missing => .error .notFound
  | directory => .error .isDirectory
  | bytes content =>
    match String.fromUTF8? content with
    | some s => .ok s
    | none => .error .notText

end FileContent

/-- The path of a file, by the bytes under which the operating system knows it. -/
structure FilePath where
  bytes : ByteArray
  deriving Inhabited

namespace FilePath

theorem data_eq_iff {p q : FilePath} : p.bytes.data = q.bytes.data ↔ p = q := by
  obtain ⟨⟨p⟩⟩ := p
  obtain ⟨⟨q⟩⟩ := q
  simp

instance : DecidableEq FilePath := fun _ _ => decidable_of_iff _ data_eq_iff

instance : Repr FilePath where
  reprPrec p := reprPrec p.bytes.data

def ofText (text : String) : FilePath :=
  ⟨text.toUTF8⟩

/-- The text that the path is, if it is one. -/
def text? (p : FilePath) : Option String :=
  String.fromUTF8? p.bytes

theorem text?_ofText (text : String) : (ofText text).text? = some text :=
  dif_pos text.isValidUTF8

theorem eq_ofText {p : FilePath} {text : String} (h : p.text? = some text) : p = ofText text := by
  unfold text? String.fromUTF8? at h
  split at h
  · cases h
    rfl
  · cases h

/-- What the path is shown as. -/
def display (p : FilePath) : String :=
  p.text?.getD (String.ofList (Text.lossy p.bytes.data.toList))

end FilePath

/-- The disk at one moment, as far as writing goes: what the operating system makes of a text
that is to be written under a path. Where it fails, it says why. -/
structure Disk where
  write : FilePath → String → Except String Unit

end Showcase
