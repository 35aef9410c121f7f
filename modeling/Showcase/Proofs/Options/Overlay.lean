import Showcase.Proofs.Options.Agreement

/-!
# Options laid over a base

What becomes of a base when an object is laid over it can be told without a reader:
`o.Overrides base members` tells that each option of `o` is what the last value under its key
says, or what `base` has if there is none. There is exactly one such `o` unless a value is of a
kind that its key does not take, and laying the object over the base ends in the check of this
`o`. A written file names every option, so nothing of the base is left under it. All of this
takes a base that can be written, as the base is written before the object is laid over it.
-/

namespace Showcase

open Json (readEntry readMembers readValue writeObject)

namespace Options

variable {base o : Options} {key : OptionKey} {members : List (String × Json.Value)}
  {value : Json.Value} {written : OptionKey → Json.Scalar}

/-! ## Overriding -/

/-- Whether two options have the same under a key. -/
def AgreeAt (o base : Options) : OptionKey → Prop
  | .marker => o.marker = base.marker
  | .pathDelimiter => o.pathDelimiter = base.pathDelimiter
  | .contextLines => o.contextLines = base.contextLines
  | .followOnStart => o.followOnStart = base.followOnStart
  | .sourceName => o.sourceName = base.sourceName
  | .repoUrl => o.repoUrl = base.repoUrl
  | .savePath => o.savePath = base.savePath
  | .windowTitle => o.windowTitle = base.windowTitle

theorem agreeAt_iff : o.AgreeAt base key ↔ o.adopt base key = base := by
  cases key with
  | _ =>
      cases base
      simp [AgreeAt, adopt]

/-- Whether each option of `o` is what the last value under its key says, or what `base` has if
there is no value. Of the members, the last one comes first. -/
def Overrides (o base : Options) (members : List (String × Json.Value)) : Prop :=
  ∀ key : OptionKey,
    match members.lookup key.name with
    | some value => o.Says key value
    | none => o.AgreeAt base key

theorem overrides_iff_holds : o.Overrides base members ↔ Holds base members o := by
  refine forall_congr' fun key => ?_
  unfold overrideAt?
  cases members.lookup key.name with
  | none =>
      show o.AgreeAt base key ↔ some base = some (o.adopt base key)
      rw [agreeAt_iff, Option.some_inj, eq_comm]
  | some value => exact setValue?_eq_some_adopt_iff.symm

theorem Overrides.takes (h : o.Overrides base members)
    (hlookup : members.lookup key.name = some value) : key.Takes value := by
  have h_key := h key
  rw [hlookup] at h_key
  exact ⟨o, h_key⟩

theorem override?_eq_some_iff_overrides :
    base.override? members = some o ↔ o.Overrides base members :=
  override?_eq_some_iff.trans overrides_iff_holds.symm

/-! ## Written options -/

theorem Writes.readsWritten_readEntry (h : o.Writes written) (depth : Nat) :
    Json.ReadsWritten (fun key => (OptionKey.name key, written key)) (readEntry .strict depth)
      (fun members key => (key.name, .scalar (written key)) :: members) fun _ _ => True where
  ready _ := trivial
  read := by
    intro key keys state rest _ h_rest
    have h_value := Json.readValue_of_readScalar depth (readScalar_writeScalar (h key) h_rest)
    show (readValue .strict depth (' ' :: _) >>= _) = _
    rw [h_value]
    rfl

/-- What is written is read as the members that it was written from. -/
theorem Writes.parse_writeObject (h : o.Writes written) :
    Json.parse (writeObject (OptionKey.all.map fun key => (key.name, written key))) =
      .ok (.object (writtenMembers written)) := by
  obtain ⟨cs, h_text, h_read⟩ : ∃ cs,
      writeObject (OptionKey.all.map fun key => (key.name, written key)) = '\x7b' :: cs ∧
        readMembers .strict (readEntry .strict 126) (cs.length + 1) true [] cs =
          .ok (writtenMembers written, []) :=
    (h.readsWritten_readEntry 126).exists_readMembers_writeObject trivial
  have h_open : Json.skipSpace ('\x7b' :: cs) = '\x7b' :: cs := rfl
  have h_value := Json.readValue_object .strict 126 h_open
  rw [h_read] at h_value
  rw [h_text, Json.parse, Json.maxDepth, h_value]
  rfl

theorem Writes.overrides_writtenMembers (h : o.Writes written) (base : Options) :
    o.Overrides base (writtenMembers written) := by
  intro key
  rw [lookup_writtenMembers]
  exact says_scalar (h key)

theorem exists_parse_toJson {json : String} (h : o.toJson = .ok json) :
    ∃ members, Json.parse json.toList = .ok (.object members) ∧
      ∀ base, o.Overrides base members := by
  cases h_o : o.isWritable with
  | true =>
      obtain ⟨written, h_written⟩ := exists_writes h_o
      rw [h_written.toJson_eq, Except.ok.injEq] at h
      refine ⟨_, ?_, h_written.overrides_writtenMembers⟩
      rw [← h, String.toList_ofList]
      exact h_written.parse_writeObject
  | false =>
      rw [toJson_eq_error h_o] at h
      cases h

/-! ## Files laid over a base -/

theorem loadOnto_of_parse {file : FileContent} {json : String} (htext : file.text = .ok json)
    (hparse : Json.parse json.toList = .ok (.object members)) (base : Options) (name : String) :
    loadOnto base name file =
      if base.isWritable then (orMismatch (base.override? members)).mapError .json >>= checked
      else .error (.json .notText) := by
  rw [loadOnto, htext]
  exact overlay_of_parse hparse base name

theorem Overrides.loadOnto_eq {file : FileContent} {json : String} (h : o.Overrides base members)
    (hbase : base.isWritable = true) (htext : file.text = .ok json)
    (hparse : Json.parse json.toList = .ok (.object members)) (name : String) :
    loadOnto base name file = o.check.map fun _ => o := by
  rw [loadOnto_of_parse htext hparse, if_pos hbase, override?_eq_some_iff_overrides.2 h]
  rfl

/-- A text that names the marker twice, first by what is no marker, and a key that is none. -/
def repairText : String :=
  "\x7b\"marker\": null, \"other\": [], \"path_delimiter\": \":\", \"marker\": \"TAG\"\x7d"

/-- The members of `repairText`, the last one first. -/
def repairMembers : List (String × Json.Value) :=
  [("marker", .scalar (.string "TAG")), ("path_delimiter", .scalar (.string ":")),
    ("other", .array []), ("marker", .scalar .null)]

end Options

end Showcase
