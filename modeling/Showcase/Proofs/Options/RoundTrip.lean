import Showcase.Options.Read
import Showcase.Proofs.Json.Written

/-!
# Written options are read back

`o.adopt acc key` is what `acc` becomes when the value is read back that `o` has under a key.
Options can be written unless their save path is no text: `o.Writes value` gives all of their
values. No key is written twice, so the reader of options adopts them all, and options that have
adopted all of those of `o` are `o`. Reading what was written thus ends in the check that every
reading ends in, and gives back the options that pass it.
-/

namespace Showcase

open Json (Scalar EndsNumber readScalar readMembers writeScalar writeObject ok_bind)

theorem OptionKey.ofName?_name (key : OptionKey) : ofName? key.name = some key := by
  cases key with
  | _ => rfl

namespace Options

variable {o acc acc' : Options} {key : OptionKey} {rest : List Char}

/-! ## One option -/

/-- The options with one of them taken from `o`. -/
def adopt (o acc : Options) : OptionKey → Options
  | .marker => { acc with marker := o.marker }
  | .pathDelimiter => { acc with pathDelimiter := o.pathDelimiter }
  | .contextLines => { acc with contextLines := o.contextLines }
  | .followOnStart => { acc with followOnStart := o.followOnStart }
  | .sourceName => { acc with sourceName := o.sourceName }
  | .repoUrl => { acc with repoUrl := o.repoUrl }
  | .savePath => { acc with savePath := o.savePath }
  | .windowTitle => { acc with windowTitle := o.windowTitle }

/-- A save path is left out, or it is the text that it is written as. -/
theorem scalar_savePath_eq_ok {value : Scalar} (h : o.scalar .savePath = .ok value) :
    o.savePath = none ∧ value = .null ∨
      ∃ text, o.savePath = some (.ofText text) ∧ value = .string text := by
  rw [scalar] at h
  split at h
  · rename_i h_path
    cases h
    exact .inl ⟨h_path, rfl⟩
  · rename_i path h_path
    split at h
    · rename_i text h_text
      cases h
      exact .inr ⟨text, h_path.trans (congrArg some (FilePath.eq_ofText h_text)), rfl⟩
    · cases h

theorem set?_scalar {value : Scalar} (h : o.scalar key = .ok value) (acc : Options) :
    acc.set? key value = some (o.adopt acc key) := by
  cases key with
  | savePath =>
      rcases scalar_savePath_eq_ok h with ⟨h_path, rfl⟩ | ⟨text, h_path, rfl⟩
      · rw [set?, adopt, h_path]
      · rw [set?, adopt, h_path]
  | pathDelimiter =>
      cases h
      simp only [set?, String.toList_ofList, adopt]
  | contextLines =>
      cases h
      simp only [set?, Json.toCount?_ofCount, Option.map_some, adopt]
  | _ =>
      cases h
      rfl

theorem readScalar_string (s : String) (rest : List Char) :
    readScalar .strict (writeScalar (.string s) ++ rest) = .ok (.string s, rest) := by
  rw [writeScalar, Json.readScalar_writeString, String.ofList_toList]

theorem readScalar_writeScalar {value : Scalar} (h : o.scalar key = .ok value)
    (hrest : EndsNumber rest) :
    readScalar .strict (writeScalar value ++ rest) = .ok (value, rest) := by
  cases key with
  | contextLines =>
      cases h
      exact Json.readScalar_writeNumber o.contextLines hrest
  | followOnStart =>
      cases h
      cases o.followOnStart with
      | true => rfl
      | false => rfl
  | savePath =>
      rcases scalar_savePath_eq_ok h with ⟨-, rfl⟩ | ⟨text, -, rfl⟩
      · rfl
      · exact readScalar_string text rest
  | _ =>
      cases h
      exact readScalar_string _ rest

theorem readOption_of_readScalar {value : Scalar} {cs : List Char}
    (h : readScalar .strict cs = .ok (value, rest)) (hset : acc.set? key value = some acc') :
    acc.readOption key (' ' :: cs) = .ok (acc', rest) := by
  obtain ⟨h_skip, h_array, h_object⟩ := Json.skipSpace_of_readScalar h
  have h_space : Json.skipSpace (' ' :: cs) = cs := h_skip
  unfold readOption
  rw [h_space]
  split
  · cases h
  · exact absurd rfl (h_array _)
  · exact absurd rfl (h_object _)
  · rw [h, ok_bind]
    simp only [hset]
    rfl

theorem readMember_of_readScalar {value : Scalar} {cs : List Char} {seen : List OptionKey}
    (h : readScalar .strict cs = .ok (value, rest)) (hset : acc.set? key value = some acc')
    (hkey : key ∉ seen) :
    readMember (acc, seen) key.name (':' :: ' ' :: cs) = .ok ((acc', key :: seen), rest) := by
  unfold readMember
  rw [OptionKey.ofName?_name]
  simp only [hkey, if_false]
  show (acc.readOption key (' ' :: cs) >>= _) = _
  rw [readOption_of_readScalar h hset]
  rfl

/-! ## All options -/

/-- Whether the options can be written: a save path has to be a text. -/
def isWritable (o : Options) : Bool :=
  o.savePath.all (·.text?.isSome)

/-- Whether `value` gives the JSON values of all options. -/
def Writes (o : Options) (value : OptionKey → Scalar) : Prop :=
  ∀ key, o.scalar key = .ok (value key)

variable {value : OptionKey → Scalar}

theorem exists_writes (h : o.isWritable = true) : ∃ value, o.Writes value := by
  have h_scalar (key : OptionKey) : ∃ value, o.scalar key = .ok value := by
    cases key with
    | savePath =>
        rw [scalar]
        split
        · exact ⟨_, rfl⟩
        · rename_i path h_path
          rw [isWritable, h_path, Option.all_some, Option.isSome_iff_exists] at h
          obtain ⟨text, h_text⟩ := h
          rw [h_text]
          exact ⟨_, rfl⟩
    | _ => exact ⟨_, rfl⟩
  exact ⟨fun key => (h_scalar key).choose, fun key => (h_scalar key).choose_spec⟩

theorem Writes.fields_eq (h : o.Writes value) :
    o.fields = .ok (OptionKey.all.map fun key => (key.name, value key)) := by
  have h_scalar : o.scalar = fun key => .ok (value key) := funext h
  rw [fields, h_scalar]
  rfl

/-- Where a path is no text, the options cannot be written at all. -/
theorem fields_eq_error (h : o.isWritable = false) : o.fields = .error .notText := by
  have h_path : o.scalar .savePath = .error .notText := by
    rw [isWritable, ← Bool.not_eq_true] at h
    rw [scalar]
    split
    · rename_i h_none
      rw [h_none] at h
      exact absurd rfl h
    · rename_i path h_some
      split
      · rename_i text h_text
        rw [h_some, Option.all_some, h_text] at h
        exact absurd rfl h
      · rfl
  simp only [fields, OptionKey.all, List.mapM_cons, h_path]
  rfl

/-- Takes an option from `o` that was not taken before. -/
def adoptNew (o : Options) (state : Options × List OptionKey) (key : OptionKey) :
    Options × List OptionKey :=
  (o.adopt state.1 key, key :: state.2)

theorem fst_foldl_adoptNew (o : Options) (keys : List OptionKey)
    (state : Options × List OptionKey) :
    (keys.foldl o.adoptNew state).1 = keys.foldl o.adopt state.1 := by
  induction keys generalizing state with
  | nil => rfl
  | cons key keys ih => exact ih (o.adoptNew state key)

/-- Whether `keys` can still be taken: none of them twice and none that was taken before. -/
def CanTake (keys : List OptionKey) (state : Options × List OptionKey) : Prop :=
  (keys ++ state.2).Nodup

theorem Writes.readsWritten_readMember (h : o.Writes value) :
    Json.ReadsWritten (fun key => (OptionKey.name key, value key)) readMember o.adoptNew
      CanTake where
  ready h := List.perm_middle.nodup_iff.2 h
  read := by
    intro key keys state rest h_take h_rest
    obtain ⟨h_notin, -⟩ := List.nodup_cons.1 h_take
    exact readMember_of_readScalar (readScalar_writeScalar (h key) h_rest)
      (set?_scalar (h key) state.1) fun h_mem => h_notin (List.mem_append_right keys h_mem)

/-- Taking every option from `o` leaves nothing of what was there before. -/
theorem foldl_adopt_all (o acc : Options) : OptionKey.all.foldl o.adopt acc = o := by
  simp only [OptionKey.all, List.foldl_cons, List.foldl_nil, adopt]

theorem Writes.read_writeObject (h : o.Writes value) :
    read (writeObject (OptionKey.all.map fun key => (key.name, value key))) = .ok (o, []) := by
  have h_start : CanTake OptionKey.all ({}, []) := by
    unfold CanTake
    decide
  obtain ⟨cs, h_text, h_read⟩ := h.readsWritten_readMember.exists_readMembers_writeObject h_start
  rw [h_text]
  show (readMembers .strict readMember (cs.length + 1) true ({}, []) cs).map _ = _
  rw [h_read]
  show Except.ok ((OptionKey.all.foldl o.adoptNew ({}, [])).1, []) = .ok (o, [])
  rw [fst_foldl_adoptNew, foldl_adopt_all]

theorem Writes.toJson_eq (h : o.Writes value) :
    o.toJson =
      .ok (String.ofList (writeObject (OptionKey.all.map fun key => (key.name, value key)))) := by
  rw [toJson, h.fields_eq]
  rfl

theorem exists_toJson (h : o.isWritable = true) :
    ∃ json, o.toJson = .ok json ∧ read json.toList = .ok (o, []) := by
  obtain ⟨value, h_value⟩ := exists_writes h
  refine ⟨_, h_value.toJson_eq, ?_⟩
  rw [String.toList_ofList]
  exact h_value.read_writeObject

theorem toJson_eq_error (h : o.isWritable = false) : o.toJson = .error (.json .notText) := by
  rw [toJson, fields_eq_error h]
  rfl

/-- Options survive being written and read, if they can drive a browser. Otherwise reading
reports what is wrong with them. Only options whose save path is no text cannot be written. -/
theorem ofJson_toJson (o : Options) :
    (o.toJson >>= ofJson) =
      if o.isWritable then o.check.map fun _ => o else .error (.json .notText) := by
  cases h : o.isWritable with
  | true =>
      obtain ⟨json, h_json, h_read⟩ := exists_toJson h
      rw [h_json]
      show ofJson json = _
      rw [ofJson, h_read]
      rfl
  | false =>
      rw [toJson_eq_error h]
      rfl

end Options

end Showcase
