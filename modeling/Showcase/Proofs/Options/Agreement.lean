import Showcase.Proofs.Json.Skipping
import Showcase.Proofs.Options.Override

/-!
# Both readers agree

A text that is read as an object is read member by member, whichever reader it is that reads.
What the first reader makes of a member depends on nothing but the value that the second one
reads there: `take` says what, and `takeAll` what comes of all members, the latest first. An
option taken that way is the one that the object has, since no key is taken twice, and so it
is the one that overriding the defaults gives.
-/

namespace Showcase

open Json (Reader readColon readEntry readKey readMembers readScalar readValue ok_bind
  exists_of_bind_eq_ok exists_of_map_eq_ok ok_of_mapError)

theorem FileContent.text_ofText (text : String) : (ofText text).text = .ok text := by
  have h_text : String.fromUTF8? text.toUTF8 = some text := dif_pos text.isValidUTF8
  rw [ofText, FileContent.text, h_text]

namespace Options

variable {base o o' : Options} {seen : List OptionKey} {members entries : List (String × Json.Value)}
  {key : OptionKey} {name : String} {value : Json.Value} {depth : Nat} {cs rest : List Char}

/-! ## One member -/

/-- What a member makes of the options so far and the keys already met. -/
def take (state : Options × List OptionKey) (name : String) (value : Json.Value) :
    Option (Options × List OptionKey) :=
  match OptionKey.ofName? name with
  | none => some state
  | some key =>
    if key ∈ state.2 then none
    else (state.1.setValue? key value).map fun o => (o, key :: state.2)

/-- An option takes the value that can be read where it stands, or it takes none. -/
theorem readOption_of_readValue (h : readValue .strict depth cs = .ok (value, rest))
    (o : Options) (key : OptionKey) :
    o.readOption key cs = (orMismatch (o.setValue? key value)).map fun o => (o, rest) := by
  unfold readOption
  rcases Json.readValue_cases h with ⟨inner, items, h_open, rfl⟩ |
    ⟨_, inner, members, rfl, h_open, rfl, -⟩ | ⟨s, h_array, h_object, rfl, h_read⟩
  · rw [h_open]
    rfl
  · rw [h_open]
    rfl
  · split
    · rename_i h_end
      rw [h_end] at h_read
      cases h_read
    · rename_i h_open
      exact absurd h_open (h_array _)
    · rename_i h_open
      exact absurd h_open (h_object _)
    · rw [h_read, ok_bind]
      simp only [setValue?]
      cases o.set? key s with
      | none => rfl
      | some o => rfl

theorem readMember_of_readEntry
    (h : readEntry .strict depth members name cs = .ok (entries, rest)) :
    ∃ value, entries = (name, value) :: members ∧
      ∀ state, readMember state name cs =
        (orMismatch (take state name value)).map fun state => (state, rest) := by
  obtain ⟨behind, h_colon, h⟩ := exists_of_bind_eq_ok h
  obtain ⟨⟨value, _⟩, h_value, h⟩ := exists_of_bind_eq_ok h
  cases h
  refine ⟨value, rfl, fun state => ?_⟩
  unfold readMember take
  cases OptionKey.ofName? name with
  | none =>
      simp only [h_colon, ok_bind, Json.skipValue_of_readValue h_value]
      rfl
  | some key =>
      by_cases h_seen : key ∈ state.2
      · simp only [h_seen, if_true]
        rfl
      · simp only [h_seen, if_false, h_colon, ok_bind, readOption_of_readValue h_value]
        cases state.1.setValue? key value with
        | none => rfl
        | some o => rfl

/-! ## All members -/

/-- What the members of an object come to, and the keys met in them. -/
def takeAll : List (String × Json.Value) → Option (Options × List OptionKey)
  | [] => some ({}, [])
  | (name, value) :: members => (takeAll members).bind fun state => take state name value

theorem takeAll_eq_none (hmembers : members <:+ entries) (h : takeAll members = none) :
    takeAll entries = none := by
  obtain ⟨later, rfl⟩ := hmembers
  induction later with
  | nil => exact h
  | cons entry later ih =>
      rw [List.cons_append, takeAll, ih]
      rfl

theorem suffix_of_readMembers {fuel : Nat} {first : Bool}
    (h : readMembers .strict (readEntry .strict depth) fuel first members cs =
      .ok (entries, rest)) : members <:+ entries := by
  induction fuel generalizing first members cs with
  | zero => cases h
  | succ fuel ih =>
      by_cases h_end : ∃ rest, Json.skipSpace cs = '\x7d' :: rest
      · obtain ⟨rest, h_end⟩ := h_end
        rw [Json.readMembers_closed _ _ _ _ h_end] at h
        cases h
        exact List.suffix_refl _
      · rw [Json.readMembers_open _ _ _ _ (not_exists.1 h_end)] at h
        obtain ⟨⟨name, inner⟩, -, h⟩ := exists_of_bind_eq_ok h
        obtain ⟨⟨_, after⟩, h_entry, h⟩ := exists_of_bind_eq_ok h
        obtain ⟨value, rfl, -⟩ := readMember_of_readEntry h_entry
        exact (List.suffix_cons _ _).trans (ih h)

/-- Where the members of an object can be read, all of them are taken or one of them cannot be. -/
theorem readMembers_readMember {fuel : Nat} {first : Bool} {state : Options × List OptionKey}
    (h : readMembers .strict (readEntry .strict depth) fuel first members cs =
      .ok (entries, rest)) (hstate : takeAll members = some state) :
    readMembers .strict readMember fuel first state cs =
      (orMismatch (takeAll entries)).map fun state => (state, rest) := by
  induction fuel generalizing first members state cs with
  | zero => cases h
  | succ fuel ih =>
      by_cases h_end : ∃ rest, Json.skipSpace cs = '\x7d' :: rest
      · obtain ⟨rest, h_end⟩ := h_end
        rw [Json.readMembers_closed _ _ _ _ h_end] at h ⊢
        cases h
        rw [hstate]
        rfl
      · rw [Json.readMembers_open _ _ _ _ (not_exists.1 h_end)] at h ⊢
        obtain ⟨⟨name, inner⟩, h_key, h⟩ := exists_of_bind_eq_ok h
        obtain ⟨⟨_, after⟩, h_entry, h⟩ := exists_of_bind_eq_ok h
        obtain ⟨value, rfl, h_member⟩ := readMember_of_readEntry h_entry
        have h_next : takeAll ((name, value) :: members) = take state name value := by
          rw [takeAll, hstate]
          rfl
        rw [h_key, ok_bind]
        simp only [h_member]
        cases h_take : take state name value with
        | none =>
            rw [takeAll_eq_none (suffix_of_readMembers h) (h_next.trans h_take)]
            rfl
        | some next => exact ih h (h_next.trans h_take)

theorem exists_of_parse_object (h : Json.parse cs = .ok (.object members)) :
    ∃ depth inner rest, Json.skipSpace cs = '\x7b' :: inner ∧
      readMembers .strict (readEntry .strict depth) (inner.length + 1) true [] inner =
        .ok (members, rest) ∧
      (Json.skipSpace rest).isEmpty = true := by
  obtain ⟨⟨_, rest⟩, h_value, h⟩ := exists_of_bind_eq_ok h
  dsimp only at h
  split at h
  · rename_i h_rest
    cases h
    rcases Json.readValue_cases h_value with ⟨_, _, _, h_eq⟩ |
      ⟨depth, inner, _, -, h_open, h_eq, h_read⟩ | ⟨_, _, _, h_eq, _⟩
    · cases h_eq
    · cases h_eq
      exact ⟨depth, inner, rest, h_open, h_read, h_rest⟩
    · cases h_eq
  · cases h

/-- Reading the text of an object ends in the check of what its members come to. -/
theorem ofJson_of_parse {json : String}
    (h : Json.parse json.toList = .ok (.object members)) :
    ofJson json =
      ((orMismatch (takeAll members)).mapError .json >>= fun state => state.1.checked) := by
  obtain ⟨depth, inner, rest, h_open, h_read, h_rest⟩ := exists_of_parse_object h
  have h_start : takeAll [] = some ({}, []) := rfl
  have h_members := readMembers_readMember h_read h_start
  have h_all : read json.toList =
      (orMismatch (takeAll members)).map fun state => (state.1, rest) := by
    unfold read
    rw [h_open]
    show (readMembers .strict readMember (inner.length + 1) true ({}, []) inner).map _ = _
    rw [h_members]
    cases takeAll members with
    | none => rfl
    | some state => rfl
  rw [ofJson, h_all]
  cases takeAll members with
  | none => rfl
  | some state =>
      have h_finish : Json.finish (.ok (state.1, rest)) = .ok state.1 := if_pos h_rest
      show (Json.finish (.ok (state.1, rest))).mapError _ >>= _ = _
      rw [h_finish]
      rfl

/-! ## The defaults overridden -/

theorem lookup_cons_of_ne (h : key.name ≠ name) :
    List.lookup key.name ((name, value) :: members) = members.lookup key.name := by
  rw [List.lookup_cons, beq_false_of_ne h]

/-- A key that is met twice is not taken, so the value taken is the one that is looked up. -/
theorem holds_of_takeAll (h : takeAll members = some (o, seen)) :
    Holds {} members o ∧ ∀ key, key ∈ seen ↔ (members.lookup key.name).isSome := by
  induction members generalizing o seen with
  | nil =>
      cases h
      refine ⟨fun key => ?_, fun key => by simp⟩
      rw [adopt_self]
      rfl
  | cons entry members ih =>
      obtain ⟨name, value⟩ := entry
      obtain ⟨⟨before, met⟩, h_before, h_take⟩ := Option.bind_eq_some_iff.1 h
      obtain ⟨h_holds, h_met⟩ := ih h_before
      unfold take at h_take
      split at h_take
      · rename_i h_unknown
        cases h_take
        have h_lookup (key : OptionKey) :
            List.lookup key.name ((name, value) :: members) = members.lookup key.name := by
          apply lookup_cons_of_ne
          rintro rfl
          rw [OptionKey.ofName?_name] at h_unknown
          cases h_unknown
        constructor
        · intro key
          rw [overrideAt?_congr (h_lookup key)]
          exact h_holds key
        · intro key
          rw [h_lookup]
          exact h_met key
      · rename_i known h_known
        obtain rfl := OptionKey.name_of_ofName? h_known
        split at h_take
        · cases h_take
        · obtain ⟨_, h_set, h_eq⟩ := Option.map_eq_some_iff.1 h_take
          cases h_eq
          constructor
          · intro key
            by_cases h_key : key = known
            · subst h_key
              unfold overrideAt?
              rw [List.lookup_cons_self]
              exact setValue?_eq_some h_set {}
            · rw [overrideAt?_congr (lookup_cons_of_ne (mt OptionKey.name_injective h_key)),
                h_holds key, adopt_of_setValue? h_set h_key]
          · intro key
            by_cases h_key : key = known
            · subst h_key
              simp
            · rw [lookup_cons_of_ne (mt OptionKey.name_injective h_key), ← h_met key]
              simp [h_key]

/-- Whether no option is named twice. -/
def NamesOnce (members : List (String × Json.Value)) : Prop :=
  ∀ key : OptionKey, (members.map Prod.fst).count key.name ≤ 1

theorem NamesOnce.tail (h : NamesOnce ((name, value) :: members)) : NamesOnce members :=
  fun key => Nat.le_trans List.count_le_count_cons (h key)

theorem NamesOnce.lookup_eq_none (h : NamesOnce ((key.name, value) :: members)) :
    members.lookup key.name = none := by
  have h_count := h key
  rw [List.map_cons, List.count_cons_self] at h_count
  have h_notin : key.name ∉ members.map Prod.fst := List.count_eq_zero.1 (by omega)
  rw [List.lookup_eq_none_iff]
  intro entry h_mem
  exact bne_iff_ne.2 fun h_eq => h_notin (h_eq ▸ List.mem_map_of_mem h_mem)

/-- All members can be taken if each of them is of the right kind. -/
theorem exists_takeAll (hnames : NamesOnce members)
    (htakes : ∀ (key : OptionKey) value, members.lookup key.name = some value → key.Takes value) :
    ∃ state, takeAll members = some state := by
  induction members with
  | nil => exact ⟨_, rfl⟩
  | cons entry members ih =>
      obtain ⟨name, value⟩ := entry
      have h_tail (key : OptionKey) (later : Json.Value)
          (h_lookup : members.lookup key.name = some later) : key.Takes later := by
        apply htakes key later
        rwa [lookup_cons_of_ne]
        rintro rfl
        rw [hnames.lookup_eq_none] at h_lookup
        cases h_lookup
      obtain ⟨⟨before, met⟩, h_before⟩ := ih hnames.tail h_tail
      rw [takeAll, h_before, Option.bind_some]
      unfold take
      split
      · exact ⟨_, rfl⟩
      · rename_i known h_known
        obtain rfl := OptionKey.name_of_ofName? h_known
        have h_unmet : known ∉ met := by
          rw [(holds_of_takeAll h_before).2 known, hnames.lookup_eq_none]
          simp
        obtain ⟨o, h_says⟩ := htakes known value List.lookup_cons_self
        rw [if_neg h_unmet, h_says.setValue?_eq before]
        exact ⟨_, rfl⟩

theorem checked_eq_ok (h : o.checked = .ok o') : o = o' := by
  obtain ⟨_, -, h_eq⟩ := exists_of_map_eq_ok h
  exact h_eq

theorem exists_of_loadOnto {file json : String} (h : loadOnto base file (.ofText json) = .ok o) :
    ∃ members, Json.parse json.toList = .ok (.object members) ∧
      base.override? members = some o ∧ o.checked = .ok o := by
  rw [loadOnto, FileContent.text_ofText] at h
  have h_overlay : base.overlay file json = .ok o := h
  obtain ⟨parsed, h_parse, h⟩ := exists_of_bind_eq_ok h_overlay
  split at h
  · rename_i members
    have h_members := ok_of_mapError h_parse
    rw [overlay_of_parse h_members] at h_overlay
    split at h_overlay
    · obtain ⟨o', h_override, h_checked⟩ := exists_of_bind_eq_ok h_overlay
      obtain rfl := checked_eq_ok h_checked
      exact ⟨members, h_members, of_orMismatch (ok_of_mapError h_override), h_checked⟩
    · cases h_overlay
  · cases h

/-- The options that both readers find in a text are the same, and what overriding the defaults
finds is found by the other reader too if the text names no option twice. -/
theorem ofJson_agrees_loadOnto (file json : String) :
    (∀ o o', ofJson json = .ok o → loadOnto {} file (.ofText json) = .ok o' → o = o') ∧
      ∀ o, loadOnto {} file (.ofText json) = .ok o →
        (∀ members, Json.parse json.toList = .ok (.object members) → NamesOnce members) →
        ofJson json = .ok o := by
  constructor
  · intro o o' h_read h_load
    obtain ⟨members, h_parse, h_override, -⟩ := exists_of_loadOnto h_load
    rw [ofJson_of_parse h_parse] at h_read
    obtain ⟨⟨taken, seen⟩, h_taken, h_checked⟩ := exists_of_bind_eq_ok h_read
    obtain rfl := checked_eq_ok h_checked
    have h_all := of_orMismatch (ok_of_mapError h_taken)
    exact (holds_of_takeAll h_all).1.unique (override?_eq_some_iff.1 h_override)
  · intro o h_load h_names
    obtain ⟨members, h_parse, h_override, h_checked⟩ := exists_of_loadOnto h_load
    have h_takes := (isSome_override?_iff {}).1 (Option.isSome_of_eq_some h_override)
    obtain ⟨⟨taken, seen⟩, h_all⟩ := exists_takeAll (h_names members h_parse) h_takes
    obtain rfl := (holds_of_takeAll h_all).1.unique (override?_eq_some_iff.1 h_override)
    rw [ofJson_of_parse h_parse, h_all]
    exact h_checked

/-- A text that names two options, and a key that is none. -/
def otherKeyText : String :=
  "\x7b\"marker\": \"TAG\", \"other\": [\x7b\"marker\": true\x7d], \"save_path\": null\x7d"

theorem ofJson_agrees_loadOnto_other_key :
    loadOnto {} "options.json" (.ofText otherKeyText) = .ok { marker := "TAG" } ∧
      (∀ members, Json.parse otherKeyText.toList = .ok (.object members) → NamesOnce members) ∧
      ofJson otherKeyText = .ok { marker := "TAG" } ∧
      ∀ o, ofJson otherKeyText = .ok o → o = { marker := "TAG" } := by
  have h_load : loadOnto {} "options.json" (.ofText otherKeyText) = .ok { marker := "TAG" } := by
    rw [loadOnto, FileContent.text_ofText]
    rfl
  have h_parse : Json.parse otherKeyText.toList = .ok (.object [("save_path", .scalar .null),
      ("other", .array [.object [("marker", .scalar (.bool true))]]),
      ("marker", .scalar (.string "TAG"))]) := rfl
  have h_names : ∀ members, Json.parse otherKeyText.toList = .ok (.object members) →
      NamesOnce members := by
    intro members h
    rw [h_parse] at h
    cases h
    intro key
    cases key with
    | _ => decide
  have h_agrees := ofJson_agrees_loadOnto "options.json" otherKeyText
  exact ⟨h_load, h_names, h_agrees.2 _ h_load h_names, fun o h => h_agrees.1 o _ h h_load⟩

end Options

end Showcase
