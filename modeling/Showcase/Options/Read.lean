import Showcase.File
import Showcase.Json.Reader
import Showcase.Log
import Showcase.Options.Key

/-!
# Reading options

There are two readers. `Options.ofJson` goes through a text from the left and takes each
option as it meets it: unknown keys are passed over, a known key must not come twice, and
options that are missing keep their defaults. An array is read as well, as the options in
the order in which they are written. `Options.overlay` first reads the text as a JSON value,
which has to be an object. The members of a given base are extended by those of the object,
and what both of them come to is read as options again.
-/

namespace Showcase

namespace Options

def readOption (o : Options) (key : OptionKey) : Json.Reader Options := fun cs =>
  match Json.skipSpace cs with
  | [] => .error .endOfText
  | '[' :: _ => .error .mismatch
  | '\x7b' :: _ => .error .mismatch
  | cs => do
    let (value, cs) ← Json.readScalar .strict cs
    match o.set? key value with
    | some o => return (o, cs)
    | none => throw .mismatch

/-- Reads one member of an object, given the options so far and the keys already met. -/
def readMember (state : Options × List OptionKey) (name : String) :
    Json.Reader (Options × List OptionKey) := fun cs => do
  match OptionKey.ofName? name with
  | none =>
    let cs ← Json.readColon cs
    let cs ← Json.skipValue cs
    return (state, cs)
  | some key =>
    if key ∈ state.2 then throw .mismatch
    let cs ← Json.readColon cs
    let (o, cs) ← state.1.readOption key cs
    return ((o, key :: state.2), cs)

/-- Reads the items of an array as the options `keys`, as far as there are items. -/
def readItems (o : Options) : List OptionKey → Bool → Json.Reader Options
  | keys, first, cs =>
    match Json.skipSpace cs with
    | ']' :: cs => .ok (o, cs)
    | [] => .error .endOfText
    | c :: cs =>
      match keys with
      | [] => .error .malformed
      | key :: keys => do
        let cs ← Json.readComma first (c :: cs)
        let (o, cs) ← o.readOption key cs
        readItems o keys false cs

def read : Json.Reader Options := fun cs =>
  match Json.skipSpace cs with
  | [] => .error .endOfText
  | '[' :: cs => readItems {} OptionKey.all true cs
  | '\x7b' :: cs =>
    (Json.readMembers .strict readMember (cs.length + 1) true ({}, []) cs).map
      fun (state, rest) => (state.1, rest)
  | cs => do
    let _ ← Json.readScalar .strict cs
    throw .mismatch

def ofJson (json : String) : Except BrowseError Options := do
  let o ← (Json.finish (read json.toList)).mapError .json
  o.checked

/-- The options as the members of a JSON value, the latest first. -/
def members (o : Options) : Except JsonError (List (String × Json.Value)) :=
  o.fields.map fun fields => fields.reverse.map fun field => (field.1, .scalar field.2)

/-- The options that the members of an object give, each by its last value. Options that are
missing keep their defaults. -/
def ofMembers (members : List (String × Json.Value)) : Except JsonError Options :=
  OptionKey.all.foldlM
    (fun o key =>
      match members.lookup key.name with
      | none => .ok o
      | some (.scalar value) =>
        match o.set? key value with
        | some o => .ok o
        | none => .error .mismatch
      | some _ => .error .mismatch)
    {}

/-- The options of `base` with those replaced that a JSON text names, checked. The name of
the file that holds the text appears in errors. -/
def overlay (base : Options) (file json : String) : Except BrowseError Options := do
  match ← (Json.parse json.toList).mapError .json with
  | .object overrides =>
    let fields ← base.members.mapError .json
    let o ← (ofMembers (overrides ++ fields)).mapError .json
    o.checked
  | _ => throw (.notAnObject file)

/-! ## Options files -/

def load (file : FileContent) : Except BrowseError Options := do
  let json ← file.text.mapError .file
  ofJson json

/-- The options that a file holds, those that it lacks being taken from `base`. -/
def loadOnto (base : Options) (name : String) (file : FileContent) :
    Except BrowseError Options := do
  let json ← file.text.mapError .file
  base.overlay name json

/-- The options that a file holds, or the defaults if there is no such file. -/
def loadIfPresent (file : FileContent) : Except BrowseError Options :=
  if file.isMissing then .ok {} else load file

def loadLog (name : String) (result : Except BrowseError Options) : List LogEntry :=
  match result with
  | .ok _ => [⟨.info, s!"loaded browser options from {name}"⟩]
  | .error _ => []

def loadIfPresentLog (name : String) (file : FileContent) : List LogEntry :=
  if file.isMissing then [⟨.debug, s!"no options file at {name}, using defaults"⟩]
  else loadLog name (load file)

end Options

end Showcase
