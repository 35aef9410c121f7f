import Showcase.Options.Read
import Showcase.Proofs.Options.RoundTrip

/-!
# Overriding options

`o.Says key value` tells that a value says what `o` has under a key. A value sets an option to
what it says, whatever the options that it is set in, and the other options stay as they are.
So what an object makes of some options can be said for each key by itself:
`base.overrideAt? members key` is `base` with the option `key` as the object has it, and
`Holds base members o` says that each option of `o` is the one found there. Only one `o` can be
so, and it is the one that overriding key by key comes to, if all values are of the right kind.

The members of an object are read over the defaults. The members that a base is written as say
all that the base has, so reading them behind those of an object overrides the base.
-/

namespace Showcase

theorem OptionKey.name_of_ofName? {name : String} {key : OptionKey} (h : ofName? name = some key) :
    key.name = name := by
  rw [ofName?] at h
  have h_name := List.find?_some h
  exact eq_of_beq h_name

theorem OptionKey.name_injective {key key' : OptionKey} (h : key.name = key'.name) :
    key = key' := by
  have h_find := ofName?_name key
  rw [h, ofName?_name] at h_find
  exact (Option.some_inj.1 h_find).symm

/-- Whether `value` says what `o` has under `key`. -/
def Options.Says (o : Options) (key : OptionKey) (value : Json.Value) : Prop :=
  match key with
  | .contextLines => ∃ n, value = .scalar (.number n) ∧ n.toCount? = some o.contextLines
  | key => ∃ s, o.scalar key = .ok s ∧ value = .scalar s

/-- Whether `value` is of the kind that `key` takes: it says what some options have there. -/
def OptionKey.Takes (key : OptionKey) (value : Json.Value) : Prop :=
  ∃ o : Options, o.Says key value

namespace Options

variable {base acc o o' : Options} {members entries fields : List (String × Json.Value)}
  {key key' : OptionKey} {value : Json.Value}

/-! ## Taking over single options -/

theorem adopt_self (o : Options) (key : OptionKey) : o.adopt o key = o := by
  cases key with
  | _ => rfl

theorem adopt_adopt (o acc acc' : Options) (key : OptionKey) :
    (o.adopt acc key).adopt acc' key = o.adopt acc' key := by
  cases key with
  | _ => rfl

theorem adopt_eq_adopt_iff : o.adopt acc key = base.adopt acc key ↔ o.adopt base key = base := by
  constructor
  · intro h
    rw [← adopt_adopt o acc base, h, adopt_adopt, adopt_self]
  · intro h
    rw [← adopt_adopt o base acc, h]

theorem adopt_adopt_of_ne (o acc acc' : Options) (h : key' ≠ key) :
    (o.adopt acc key).adopt acc' key' = acc.adopt acc' key' := by
  cases key with
  | _ =>
      cases key' with
      | _ => simp_all [adopt]

/-- Options are the same if each single one is. -/
theorem ext_adopt (base : Options) (h : ∀ key, o.adopt base key = o'.adopt base key) :
    o = o' := by
  have h_adopt : o.adopt = o'.adopt := by
    funext acc key
    rw [← adopt_adopt o base acc key, h key, adopt_adopt]
  rw [← foldl_adopt_all o base, h_adopt, foldl_adopt_all]

/-! ## What a value says -/

/-- Sets an option to a JSON value, which must not have parts. -/
def setValue? (o : Options) (key : OptionKey) : Json.Value → Option Options
  | .scalar value => o.set? key value
  | _ => none

theorem says_scalar {s : Json.Scalar} (h : o.scalar key = .ok s) : o.Says key (.scalar s) := by
  cases key with
  | contextLines =>
      cases h
      exact ⟨_, rfl, Json.toCount?_ofCount o.contextLines⟩
  | _ => exact ⟨s, h, rfl⟩

theorem Says.setValue?_eq (h : o.Says key value) (base : Options) :
    base.setValue? key value = some (o.adopt base key) := by
  cases key with
  | contextLines =>
      obtain ⟨n, rfl, h_count⟩ := h
      simp only [setValue?, set?, h_count, Option.map_some, adopt]
  | _ =>
      obtain ⟨s, h_s, rfl⟩ := h
      exact set?_scalar h_s base

theorem says_of_setValue? (h : base.setValue? key value = some o) : o.Says key value := by
  cases value with
  | array items => cases h
  | object members => cases h
  | scalar s =>
      cases key with
      | pathDelimiter =>
          cases s with
          | string text =>
              simp only [setValue?, set?] at h
              split at h
              · rename_i c h_text
                cases h
                refine ⟨.string (String.ofList [c]), rfl, ?_⟩
                rw [← h_text, String.ofList_toList]
              · cases h
          | _ => cases h
      | contextLines =>
          cases s with
          | number n =>
              simp only [setValue?, set?, Option.map_eq_some_iff] at h
              obtain ⟨count, h_count, rfl⟩ := h
              exact ⟨n, rfl, h_count⟩
          | _ => cases h
      | savePath =>
          cases s with
          | null =>
              cases h
              exact ⟨.null, rfl, rfl⟩
          | string text =>
              cases h
              refine ⟨.string text, ?_, rfl⟩
              simp only [scalar, FilePath.text?_ofText]
          | _ => cases h
      | _ =>
          -- any other option takes the value as it is, if it takes it at all
          cases s with
          | _ => cases h <;> exact ⟨_, rfl, rfl⟩

theorem setValue?_eq_some (h : acc.setValue? key value = some o) (acc' : Options) :
    acc'.setValue? key value = some (o.adopt acc' key) :=
  (says_of_setValue? h).setValue?_eq acc'

theorem says_adopt_iff : (o.adopt base key).Says key value ↔ o.Says key value := by
  cases key with
  | _ => exact Iff.rfl

theorem setValue?_eq_some_adopt_iff :
    base.setValue? key value = some (o.adopt base key) ↔ o.Says key value := by
  constructor
  · intro h
    exact says_adopt_iff.1 (says_of_setValue? h)
  · intro h
    exact h.setValue?_eq base

theorem isSome_setValue?_iff : (base.setValue? key value).isSome ↔ key.Takes value := by
  rw [Option.isSome_iff_exists]
  constructor
  · rintro ⟨o, h⟩
    exact ⟨o, says_of_setValue? h⟩
  · rintro ⟨o, h⟩
    exact ⟨_, h.setValue?_eq base⟩

/-- Setting an option changes no other. -/
theorem adopt_of_setValue? (h : acc.setValue? key value = some o) (hne : key' ≠ key)
    (acc' : Options) : o.adopt acc' key' = acc.adopt acc' key' := by
  have h_o : o.adopt acc key = o := by
    rw [setValue?_eq_some h acc] at h
    exact Option.some_inj.1 h
  rw [← h_o, adopt_adopt_of_ne o acc acc' hne]

/-! ## One key of an object -/

/-- The options with one of them as an object has it, the first of its values for the key being
the one that counts. -/
def overrideAt? (base : Options) (members : List (String × Json.Value)) (key : OptionKey) :
    Option Options :=
  match members.lookup key.name with
  | none => some base
  | some value => base.setValue? key value

/-- Nothing but the value under a key counts. -/
theorem overrideAt?_congr (h : members.lookup key.name = entries.lookup key.name) :
    base.overrideAt? members key = base.overrideAt? entries key := by
  rw [overrideAt?, overrideAt?, h]

/-- What options have under a key is all that counts for what they are given there. -/
theorem overrideAt?_eq_some (h : acc.overrideAt? members key = some o)
    (hbase : acc.adopt base key = base) :
    base.overrideAt? members key = some (o.adopt base key) := by
  unfold overrideAt? at h ⊢
  split at h
  · cases h
    rw [hbase]
  · exact setValue?_eq_some h base

theorem adopt_of_overrideAt? (h : acc.overrideAt? members key = some o) (hne : key' ≠ key)
    (acc' : Options) : o.adopt acc' key' = acc.adopt acc' key' := by
  unfold overrideAt? at h
  split at h
  · cases h
    rfl
  · exact adopt_of_setValue? h hne acc'

/-- Each option of `o` is as an object has it, or else as `base` has it. -/
def Holds (base : Options) (members : List (String × Json.Value)) (o : Options) : Prop :=
  ∀ key, base.overrideAt? members key = some (o.adopt base key)

theorem Holds.unique (h : Holds base members o) (h' : Holds base members o') : o = o' := by
  apply ext_adopt base
  intro key
  exact Option.some_inj.1 ((h key).symm.trans (h' key))

/-! ## All keys -/

/-- The options with those of `keys` as an object has them. -/
def overrideEach? (base : Options) (members : List (String × Json.Value))
    (keys : List OptionKey) : Option Options :=
  keys.foldlM (fun o key => o.overrideAt? members key) base

/-- The options with every one that an object names as the object has it. -/
def override? (base : Options) (members : List (String × Json.Value)) : Option Options :=
  base.overrideEach? members OptionKey.all

theorem overrideEach?_cons (base : Options) (keys : List OptionKey) :
    base.overrideEach? members (key :: keys) =
      (base.overrideAt? members key).bind fun next => next.overrideEach? members keys :=
  List.foldlM_cons

theorem overrideEach?_eq_some {keys : List OptionKey} (hkeys : keys.Nodup)
    (h : acc.overrideEach? members keys = some o) :
    (∀ key ∈ keys, acc.overrideAt? members key = some (o.adopt acc key)) ∧
      ∀ key ∉ keys, o.adopt acc key = acc := by
  -- on the keys not met yet; the options that the rest starts from have changed at `key` alone
  induction keys generalizing acc with
  | nil =>
      cases h
      exact ⟨by simp, fun key _ => adopt_self _ key⟩
  | cons key keys ih =>
      obtain ⟨h_notin, h_nodup⟩ := List.nodup_cons.1 hkeys
      rw [overrideEach?_cons] at h
      obtain ⟨next, h_key, h_rest⟩ := Option.bind_eq_some_iff.1 h
      obtain ⟨h_set, h_keep⟩ := ih h_nodup h_rest
      have h_other {key' : OptionKey} (hne : key' ≠ key) : next.adopt acc key' = acc := by
        rw [adopt_of_overrideAt? h_key hne, adopt_self]
      constructor
      · intro key' h_mem
        rcases List.mem_cons.1 h_mem with rfl | h_later
        · rw [← adopt_adopt o next acc, h_keep key' h_notin]
          exact overrideAt?_eq_some h_key (adopt_self acc key')
        · have h_ne : key' ≠ key := by
            rintro rfl
            exact h_notin h_later
          rw [← adopt_adopt o next acc]
          exact overrideAt?_eq_some (h_set key' h_later) (h_other h_ne)
      · intro key' h_mem
        obtain ⟨h_ne, h_later⟩ := not_or.1 (mt List.mem_cons.2 h_mem)
        rw [← adopt_adopt o next acc, h_keep key' h_later, h_other h_ne]

theorem isSome_overrideAt?_iff (acc : Options) :
    (acc.overrideAt? members key).isSome ↔
      ∀ value, members.lookup key.name = some value → key.Takes value := by
  unfold overrideAt?
  cases members.lookup key.name with
  | none => simp
  | some value => simp [isSome_setValue?_iff]

/-- Whether keys can be overridden does not depend on the options that they are overridden in. -/
theorem isSome_overrideEach?_iff (keys : List OptionKey) (acc : Options) :
    (acc.overrideEach? members keys).isSome ↔
      ∀ key ∈ keys, ∀ value, members.lookup key.name = some value → key.Takes value := by
  induction keys generalizing acc with
  | nil => simp [overrideEach?]
  | cons key keys ih =>
      rw [overrideEach?_cons, List.forall_mem_cons, ← isSome_overrideAt?_iff acc]
      cases acc.overrideAt? members key with
      | none => simp
      | some next => simpa using ih next

theorem isSome_override?_iff (base : Options) :
    (base.override? members).isSome ↔
      ∀ (key : OptionKey) value, members.lookup key.name = some value → key.Takes value := by
  rw [override?, isSome_overrideEach?_iff]
  exact forall_congr' fun key => imp_iff_right (OptionKey.mem_all key)

/-- Overriding takes over what an object has and nothing else. -/
theorem override?_eq_some_iff : base.override? members = some o ↔ Holds base members o := by
  have h_nodup : OptionKey.all.Nodup := by decide
  have h_holds {o : Options} (h : base.override? members = some o) : Holds base members o :=
    fun key => (overrideEach?_eq_some h_nodup h).1 key (OptionKey.mem_all key)
  constructor
  · exact h_holds
  · intro h
    have h_some : (base.override? members).isSome := by
      rw [isSome_override?_iff]
      intro key
      rw [← isSome_overrideAt?_iff base, h key]
      rfl
    obtain ⟨o', h_o'⟩ := Option.isSome_iff_exists.1 h_some
    rw [h_o', (h_holds h_o').unique h]

/-! ## Reading members -/

/-- A value that could not be taken is one of the wrong kind. -/
def orMismatch {α : Type} : Option α → Except JsonError α
  | some a => .ok a
  | none => .error .mismatch

theorem of_orMismatch {α : Type} {x : Option α} {a : α} (h : orMismatch x = .ok a) :
    x = some a := by
  cases x with
  | none => cases h
  | some b =>
      cases h
      rfl

/-- The first value that cannot be taken ends it all. -/
theorem foldlM_orMismatch {α β : Type} (f : β → α → Option β) (xs : List α) (b : β) :
    xs.foldlM (fun b x => orMismatch (f b x)) b = orMismatch (xs.foldlM f b) := by
  induction xs generalizing b with
  | nil => rfl
  | cons x xs ih =>
      rw [List.foldlM_cons, List.foldlM_cons]
      cases f b x with
      | none => rfl
      | some next => exact ih next

/-- Members are read over the defaults. -/
theorem ofMembers_eq (members : List (String × Json.Value)) :
    ofMembers members = orMismatch (override? {} members) := by
  rw [override?, overrideEach?, ← foldlM_orMismatch, ofMembers]
  congr 1
  funext o key
  unfold overrideAt?
  cases members.lookup key.name with
  | none => rfl
  | some value =>
      cases value with
      | scalar s =>
          simp only [setValue?]
          cases o.set? key s with
          | none => rfl
          | some o => rfl
      | array items => rfl
      | object members => rfl

/-! ## The members that a base is written as -/

/-- The members of written options, the latest first. -/
def writtenMembers (value : OptionKey → Json.Scalar) : List (String × Json.Value) :=
  OptionKey.all.reverse.map fun key => (key.name, .scalar (value key))

variable {written : OptionKey → Json.Scalar}

theorem Writes.members_eq (h : base.Writes written) :
    base.members = .ok (writtenMembers written) := by
  rw [Options.members, h.fields_eq]
  rfl

theorem lookup_writtenMembers (written : OptionKey → Json.Scalar) (key : OptionKey) :
    (writtenMembers written).lookup key.name = some (.scalar (written key)) := by
  cases key with
  | _ => rfl

/-- Behind other members, those of a base give what the others leave open. -/
theorem Writes.holds_append_iff (h : base.Writes written) :
    Holds {} (members ++ writtenMembers written) o ↔ Holds base members o := by
  refine forall_congr' fun key => ?_
  unfold overrideAt?
  rw [List.lookup_append, lookup_writtenMembers]
  cases members.lookup key.name with
  | none =>
      show setValue? {} key (.scalar (written key)) = some (o.adopt {} key) ↔
        some base = some (o.adopt base key)
      rw [(says_scalar (h key)).setValue?_eq, Option.some_inj, Option.some_inj, eq_comm,
        adopt_eq_adopt_iff, eq_comm]
  | some value =>
      show setValue? {} key value = some (o.adopt {} key) ↔
        base.setValue? key value = some (o.adopt base key)
      rw [setValue?_eq_some_adopt_iff, setValue?_eq_some_adopt_iff]

/-- What a base is written as and read again is the base, whatever was overridden before. -/
theorem Writes.ofMembers_append (h : base.Writes written)
    (members : List (String × Json.Value)) :
    ofMembers (members ++ writtenMembers written) = orMismatch (base.override? members) := by
  rw [ofMembers_eq]
  congr 1
  ext o
  rw [override?_eq_some_iff, override?_eq_some_iff, h.holds_append_iff]

/-- Laying an object over a base overrides the base field by field, if it can be written. -/
theorem overlay_of_parse {json : String}
    (h : Json.parse json.toList = .ok (.object members)) (base : Options) (file : String) :
    base.overlay file json =
      if base.isWritable then (orMismatch (base.override? members)).mapError .json >>= checked
      else .error (.json .notText) := by
  have h_overlay : base.overlay file json =
      (base.members.mapError .json >>= fun fields =>
        (ofMembers (members ++ fields)).mapError .json >>= checked) := by
    rw [overlay, h]
    rfl
  rw [h_overlay]
  cases h_base : base.isWritable with
  | true =>
      obtain ⟨written, h_written⟩ := exists_writes h_base
      rw [h_written.members_eq]
      show (ofMembers _).mapError .json >>= checked = _
      rw [h_written.ofMembers_append]
      rfl
  | false =>
      rw [Options.members, fields_eq_error h_base]
      rfl

end Options

end Showcase
