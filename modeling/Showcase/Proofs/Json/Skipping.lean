import Showcase.Proofs.Json.Written

/-!
# What is read can be passed over

A value that is passed over is held to less than one that is wanted. So wherever the strict
reader takes a value off a text, the skipping reader passes over it and leaves the same rest.
`Follows R n a b` says this of two results: if `a` is a value and a rest, then `b` is a value
that `R` relates to it and the same rest, of at most `n` characters. The bound is carried
along because the length of the text is all that bounds the depth to which values that are
passed over are nested.
-/

namespace Showcase.Json

variable {α β α' β' σ τ : Type} {R : α → β → Prop} {S : α' → β' → Prop} {n : Nat}

/-- Wherever `a` leaves a rest, `b` leaves the same, and it is at most `n` characters long. -/
def Follows (R : α → β → Prop) (n : Nat) (a : Except JsonError (α × List Char))
    (b : Except JsonError (β × List Char)) : Prop :=
  ∀ x rest, a = .ok (x, rest) → rest.length ≤ n ∧ ∃ y, R x y ∧ b = .ok (y, rest)

/-- Any two values are related. -/
abbrev Whatever : α → β → Prop := fun _ _ => True

namespace Follows

variable {a : Except JsonError (α × List Char)} {b : Except JsonError (β × List Char)}

theorem error (e : JsonError) : Follows R n (.error e) b := by
  intro x rest h
  cases h

theorem ok {x : α} {y : β} {rest : List Char} (hxy : R x y) (hrest : rest.length ≤ n) :
    Follows R n (.ok (x, rest)) (.ok (y, rest)) := by
  intro x' rest' h
  cases h
  exact ⟨hrest, y, hxy, rfl⟩

theorem mono {m : Nat} (h : Follows R m a b) (hmn : m ≤ n) : Follows R n a b := by
  intro x rest h_a
  obtain ⟨h_rest, h_b⟩ := h x rest h_a
  exact ⟨Nat.le_trans h_rest hmn, h_b⟩

theorem weaken (h : Follows R n a b) : Follows Whatever n a b := by
  intro x rest h_a
  obtain ⟨h_rest, y, -, h_b⟩ := h x rest h_a
  exact ⟨h_rest, y, trivial, h_b⟩

theorem bind {f : α × List Char → Except JsonError (α' × List Char)}
    {g : β × List Char → Except JsonError (β' × List Char)} (h : Follows R n a b)
    (hfg : ∀ x y rest, R x y → rest.length ≤ n → Follows S n (f (x, rest)) (g (y, rest))) :
    Follows S n (a >>= f) (b >>= g) := by
  cases a with
  | error e => exact error e
  | ok p =>
      obtain ⟨h_rest, y, h_xy, rfl⟩ := h p.1 p.2 rfl
      exact hfg p.1 y p.2 h_xy h_rest

theorem map {f : α × List Char → α' × List Char} {g : β × List Char → β' × List Char}
    (h : Follows R n a b)
    (hfg : ∀ x y rest, R x y → rest.length ≤ n →
      Follows S n (.ok (f (x, rest))) (.ok (g (y, rest)))) :
    Follows S n (a.map f) (b.map g) := by
  cases a with
  | error e => exact error e
  | ok p =>
      obtain ⟨h_rest, y, h_xy, rfl⟩ := h p.1 p.2 rfl
      exact hfg p.1 y p.2 h_xy h_rest

/-- A step that only takes something off the text is the same for both. -/
theorem bind_rest {read : Except JsonError (List Char)}
    {f : List Char → Except JsonError (α × List Char)}
    {g : List Char → Except JsonError (β × List Char)}
    (hread : ∀ rest, read = .ok rest → rest.length ≤ n)
    (hfg : ∀ rest, rest.length ≤ n → Follows R n (f rest) (g rest)) :
    Follows R n (read >>= f) (read >>= g) := by
  cases read with
  | error e => exact error e
  | ok rest => exact hfg rest (hread rest rfl)

end Follows

/-! ## Lengths -/

theorem length_skipSpace_le (cs : List Char) : (skipSpace cs).length ≤ cs.length :=
  (List.dropWhile_sublist _).length_le

theorem length_of_readColon {cs rest : List Char} (h : readColon cs = .ok rest) :
    rest.length ≤ cs.length := by
  have h_skip := length_skipSpace_le cs
  unfold readColon at h
  split at h
  · cases h
  · rename_i h_colon
    cases h
    rw [h_colon, List.length_cons] at h_skip
    omega
  · cases h

theorem length_of_readComma {first : Bool} {cs rest : List Char}
    (h : readComma first cs = .ok rest) : rest.length ≤ cs.length := by
  unfold readComma at h
  split at h
  · cases h
  · rename_i c cs
    split at h
    · cases h
      exact Nat.le_refl _
    · split at h
      · cases h
        exact Nat.le_succ_of_le (length_skipSpace_le cs)
      · cases h

/-! ## Strings -/

theorem Follows.consChar {a b : Except JsonError (List Char × List Char)} (c c' : Char)
    (h : Follows Whatever n a b) :
    Follows Whatever n (Json.consChar c a) (Json.consChar c' b) :=
  h.map fun _ _ _ _ h_rest => .ok trivial h_rest

theorem Follows.consChar_right {a b : Except JsonError (List Char × List Char)} (c : Char)
    (h : Follows Whatever n a b) : Follows Whatever n a (Json.consChar c b) := by
  intro x rest h_a
  obtain ⟨h_rest, y, -, rfl⟩ := h x rest h_a
  exact ⟨h_rest, c :: y, trivial, rfl⟩

/-- An escape that is passed over stands for a character of its own, whether it is half of a
pair or not. -/
theorem readString_skipping_codePoint {a b c d : Char} {value : Nat}
    (h : hexValue? a b c d = some value) (rest : List Char) :
    readString .skipping ('\\' :: 'u' :: a :: b :: c :: d :: rest) =
      consChar (Char.ofNat value) (readString .skipping rest) := by
  rw [readString, h]
  rfl

theorem follows_readString {cs : List Char} (h : cs.length ≤ n) :
    Follows Whatever n (readString .strict cs) (readString .skipping cs) := by
  fun_induction readString .strict cs with
  | case2 cs => exact .ok trivial (Nat.le_of_succ_le h)
  | case4 a b c d cs value h_value _ ih =>
      simp only [List.length_cons] at h
      rw [readString_skipping_codePoint h_value]
      exact (ih (by omega)).consChar _ _
  | case7 a b c d high h_high _ _ a' b' c' d' cs low h_low _ ih =>
      simp only [List.length_cons] at h
      rw [readString_skipping_codePoint h_high, readString_skipping_codePoint h_low]
      -- the strict reader makes one character of the pair
      exact ((ih (by omega)).consChar _ _).consChar_right _
  | case15 c cs _ _ e h_short ih =>
      simp only [List.length_cons] at h
      rw [readString_shortEscape h_short]
      exact (ih (by omega)).consChar _ _
  | case18 c cs h_quote _ _ h_end h_slash h_space ih =>
      simp only [List.length_cons] at h
      have h_ne : c ≠ '\\' := by
        intro h_c
        cases cs with
        | nil => exact h_end h_c rfl
        | cons c' cs => exact h_slash c' cs h_c rfl
      rw [readString_plain h_quote h_ne (Nat.not_lt.1 h_space)]
      exact (ih (by omega)).consChar _ _
  | _ => exact .error _

/-! ## Numbers -/

theorem follows_readDigits {cs : List Char} (h : cs.length ≤ n) :
    Follows Eq n (readDigits .strict cs) (readDigits .skipping cs) := by
  unfold readDigits
  dsimp only
  split
  · exact .error _
  · exact .ok rfl (Nat.le_trans (List.dropWhile_sublist _).length_le h)

theorem follows_readFraction {cs : List Char} (h : cs.length ≤ n) :
    Follows Eq n (readFraction .strict cs) (readFraction .skipping cs) := by
  unfold readFraction
  split
  · rename_i cs
    refine (follows_readDigits (Nat.le_of_succ_le h)).map ?_
    rintro digits _ rest rfl h_rest
    exact .ok rfl h_rest
  · exact .ok rfl h

theorem length_takeSign_le (cs : List Char) : (takeSign cs).2.length ≤ cs.length := by
  unfold takeSign
  split
  · exact Nat.le_succ _
  · exact Nat.le_succ _
  · exact Nat.le_refl _

theorem follows_readExponent {cs : List Char} (h : cs.length ≤ n) :
    Follows Eq n (readExponent .strict cs) (readExponent .skipping cs) := by
  unfold readExponent
  split
  · rename_i c cs
    split
    · have h_sign := length_takeSign_le cs
      cases h_eq : takeSign cs with
      | mk negative unsigned =>
          rw [h_eq] at h_sign
          have h_unsigned : unsigned.length ≤ n :=
            Nat.le_trans h_sign (Nat.le_of_succ_le h)
          refine (follows_readDigits h_unsigned).map ?_
          rintro digits _ rest rfl h_rest
          exact .ok rfl h_rest
    · exact .ok rfl h
  · exact .ok rfl h

theorem follows_readNumber {cs : List Char} (h : cs.length ≤ n) :
    Follows Eq n (readNumber .strict cs) (readNumber .skipping cs) := by
  unfold readNumber
  split
  rename_i negative unsigned h_sign
  have h_unsigned : unsigned.length ≤ n := by
    split at h_sign
    · cases h_sign
      exact Nat.le_of_succ_le h
    · cases h_sign
      exact h
  refine (follows_readDigits h_unsigned).bind ?_
  rintro whole _ rest rfl h_rest
  dsimp only
  split
  · exact .error _
  · refine (follows_readFraction h_rest).bind ?_
    rintro fraction _ rest rfl h_rest
    refine (follows_readExponent h_rest).bind ?_
    rintro exponent _ rest rfl h_rest
    dsimp only
    split
    · exact .error _
    · exact .ok rfl h_rest

/-! ## Values without parts -/

theorem follows_readWord (value : α) {word cs : List Char} (h : cs.length ≤ n) :
    Follows Eq n (readWord value word cs) (readWord value word cs) := by
  induction word generalizing cs with
  | nil => exact .ok rfl h
  | cons w word ih =>
      cases cs with
      | nil => exact .error _
      | cons c cs =>
          rw [readWord]
          split
          · exact ih (Nat.le_of_succ_le h)
          · exact .error _

theorem follows_readScalar {cs : List Char} (h : cs.length ≤ n) :
    Follows Whatever n (readScalar .strict cs) (readScalar .skipping cs) := by
  unfold readScalar
  split
  · exact .error _
  · exact (follows_readWord _ (Nat.le_of_succ_le h)).weaken
  · exact (follows_readWord _ (Nat.le_of_succ_le h)).weaken
  · exact (follows_readWord _ (Nat.le_of_succ_le h)).weaken
  · exact (follows_readString (Nat.le_of_succ_le h)).map fun _ _ _ _ h_rest =>
      .ok trivial h_rest
  · split
    · exact (follows_readNumber h).map fun _ _ _ _ h_rest => .ok trivial h_rest
    · exact .error _

/-! ## Arrays and objects -/

theorem Follows.readItems {item : Reader α} {item' : Reader β}
    (hitem : ∀ cs, cs.length ≤ n → Follows Whatever n (item cs) (item' cs)) (fuel : Nat)
    (first : Bool) {cs : List Char} (h : cs.length ≤ n) :
    Follows Whatever n (Json.readItems item fuel first cs)
      (Json.readItems item' fuel first cs) := by
  induction fuel generalizing first cs with
  | zero => exact .error _
  | succ fuel ih =>
      have h_skip := Nat.le_trans (length_skipSpace_le cs) h
      rw [Json.readItems, Json.readItems]
      split
      · rename_i rest h_end
        rw [h_end] at h_skip
        exact .ok trivial (Nat.le_of_succ_le h_skip)
      · refine Follows.bind_rest (fun rest h_comma => ?_) fun rest h_rest => ?_
        · exact Nat.le_trans (length_of_readComma h_comma) h_skip
        · refine (hitem rest h_rest).bind ?_
          intro x y rest _ h_rest
          exact (ih false h_rest).bind fun xs ys rest _ h_rest => .ok trivial h_rest

/-- Reads up to the end of the key that the next member starts with. -/
def readKey (manner : Manner) (first : Bool) : Reader String := fun cs => do
  match ← readComma first cs with
  | [] => throw .endOfText
  | '"' :: cs =>
    let (key, cs) ← readString manner cs
    return (String.ofList key, cs)
  | _ => throw .malformed

theorem readMembers_closed {manner : Manner} (member : σ → String → Reader σ) (fuel : Nat)
    (first : Bool) (state : σ) {cs rest : List Char} (h : skipSpace cs = '\x7d' :: rest) :
    readMembers manner member (fuel + 1) first state cs = .ok (state, rest) := by
  rw [readMembers, h]
  rfl

theorem readMembers_open {manner : Manner} (member : σ → String → Reader σ) (fuel : Nat)
    (first : Bool) (state : σ) {cs : List Char} (h : ∀ rest, skipSpace cs ≠ '\x7d' :: rest) :
    readMembers manner member (fuel + 1) first state cs =
      (readKey manner first (skipSpace cs) >>= fun (name, cs) =>
        member state name cs >>= fun (state, cs) =>
          readMembers manner member fuel false state cs) := by
  rw [readMembers]
  split
  · rename_i h_end
    exact absurd h_end (h _)
  · unfold readKey
    cases readComma first (skipSpace cs) with
    | error e => rfl
    | ok behind =>
        rw [ok_bind, ok_bind]
        cases behind with
        | nil => rfl
        | cons c inner =>
            by_cases h_quote : c = '"'
            · subst h_quote
              show (readString manner inner >>= _) = ((readString manner inner >>= _) >>= _)
              cases readString manner inner with
              | error e => rfl
              | ok read => rfl
            · simp [h_quote, throw_bind]

theorem follows_readKey (first : Bool) {cs : List Char} (h : cs.length ≤ n) :
    Follows Whatever n (readKey .strict first cs) (readKey .skipping first cs) := by
  refine Follows.bind_rest (fun rest h_comma => ?_) fun rest h_rest => ?_
  · exact Nat.le_trans (length_of_readComma h_comma) h
  · split
    · exact .error _
    · exact (follows_readString (Nat.le_of_succ_le h_rest)).bind fun _ _ _ _ h_rest =>
        .ok trivial h_rest
    · exact .error _

theorem Follows.readMembers {member : σ → String → Reader σ} {member' : τ → String → Reader τ}
    (hmember : ∀ s t key key' cs, cs.length ≤ n →
      Follows Whatever n (member s key cs) (member' t key' cs))
    (fuel : Nat) (first : Bool) (s : σ) (t : τ) {cs : List Char} (h : cs.length ≤ n) :
    Follows Whatever n (Json.readMembers .strict member fuel first s cs)
      (Json.readMembers .skipping member' fuel first t cs) := by
  induction fuel generalizing first s t cs with
  | zero => exact .error _
  | succ fuel ih =>
      have h_skip := Nat.le_trans (length_skipSpace_le cs) h
      by_cases h_end : ∃ rest, skipSpace cs = '\x7d' :: rest
      · obtain ⟨rest, h_end⟩ := h_end
        rw [readMembers_closed _ _ _ _ h_end, readMembers_closed _ _ _ _ h_end]
        rw [h_end] at h_skip
        exact .ok trivial (Nat.le_of_succ_le h_skip)
      · rw [readMembers_open _ _ _ _ (not_exists.1 h_end),
          readMembers_open _ _ _ _ (not_exists.1 h_end)]
        refine (follows_readKey first h_skip).bind ?_
        intro key key' rest _ h_rest
        refine (hmember s t key key' rest h_rest).bind ?_
        intro s t rest _ h_rest
        exact ih false s t h_rest

/-! ## Values -/

/-- Reads a member of an object as a value and puts it in front of those so far. -/
def readEntry (manner : Manner) (depth : Nat) (members : List (String × Value)) (key : String) :
    Reader (List (String × Value)) := fun cs => do
  let cs ← readColon cs
  let (value, cs) ← readValue manner depth cs
  return ((key, value) :: members, cs)

/-- A text starts with an array, with an object, or with what can only be without parts. -/
theorem opening_cases (cs : List Char) :
    (∃ inner, skipSpace cs = '[' :: inner) ∨ (∃ inner, skipSpace cs = '\x7b' :: inner) ∨
      ((∀ inner, skipSpace cs ≠ '[' :: inner) ∧ ∀ inner, skipSpace cs ≠ '\x7b' :: inner) := by
  by_cases h_array : ∃ inner, skipSpace cs = '[' :: inner
  · exact .inl h_array
  · by_cases h_object : ∃ inner, skipSpace cs = '\x7b' :: inner
    · exact .inr (.inl h_object)
    · exact .inr (.inr ⟨not_exists.1 h_array, not_exists.1 h_object⟩)

theorem readValue_array (manner : Manner) (depth : Nat) {cs inner : List Char}
    (h : skipSpace cs = '[' :: inner) :
    readValue manner (depth + 1) cs =
      (readItems (readValue manner depth) (inner.length + 1) true inner).map
        fun (items, rest) => (.array items, rest) := by
  rw [readValue, h]
  rfl

theorem readValue_object (manner : Manner) (depth : Nat) {cs inner : List Char}
    (h : skipSpace cs = '\x7b' :: inner) :
    readValue manner (depth + 1) cs =
      (readMembers manner (readEntry manner depth) (inner.length + 1) true [] inner).map
        fun (members, rest) => (.object members, rest) := by
  rw [readValue, h]
  rfl

theorem readValue_scalar (manner : Manner) (depth : Nat) {cs : List Char}
    (harray : ∀ inner, skipSpace cs ≠ '[' :: inner)
    (hobject : ∀ inner, skipSpace cs ≠ '\x7b' :: inner) :
    readValue manner depth cs =
      (readScalar manner (skipSpace cs)).map fun (value, rest) => (.scalar value, rest) := by
  cases depth with
  | _ =>
      rw [readValue]
      split
      · rename_i h_open
        exact absurd h_open (harray _)
      · rename_i h_open
        exact absurd h_open (hobject _)
      · rfl

theorem readValue_of_readScalar (depth : Nat) {cs rest : List Char} {s : Scalar}
    (h : readScalar .strict cs = .ok (s, rest)) :
    readValue .strict depth (' ' :: cs) = .ok (.scalar s, rest) := by
  obtain ⟨h_skip, h_array, h_object⟩ := skipSpace_of_readScalar h
  have h_space : skipSpace (' ' :: cs) = cs := h_skip
  rw [readValue_scalar .strict depth (by rwa [h_space]) (by rwa [h_space]), h_space, h]
  rfl

/-- Each kind of value is what its own reader has read. -/
theorem readValue_cases {manner : Manner} {depth : Nat} {cs rest : List Char} {value : Value}
    (h : readValue manner depth cs = .ok (value, rest)) :
    (∃ inner items, skipSpace cs = '[' :: inner ∧ value = .array items) ∨
      (∃ depth' inner members, depth = depth' + 1 ∧ skipSpace cs = '\x7b' :: inner ∧
        value = .object members ∧
        readMembers manner (readEntry manner depth') (inner.length + 1) true [] inner =
          .ok (members, rest)) ∨
      (∃ s, (∀ inner, skipSpace cs ≠ '[' :: inner) ∧ (∀ inner, skipSpace cs ≠ '\x7b' :: inner) ∧
        value = .scalar s ∧ readScalar manner (skipSpace cs) = .ok (s, rest)) := by
  rcases opening_cases cs with ⟨inner, h_open⟩ | ⟨inner, h_open⟩ | ⟨h_array, h_object⟩
  · cases depth with
    | zero =>
        rw [readValue, h_open] at h
        cases h
    | succ depth =>
        rw [readValue_array _ _ h_open] at h
        obtain ⟨⟨items, _⟩, -, h_eq⟩ := exists_of_map_eq_ok h
        cases h_eq
        exact .inl ⟨inner, items, h_open, rfl⟩
  · cases depth with
    | zero =>
        rw [readValue, h_open] at h
        cases h
    | succ depth =>
        rw [readValue_object _ _ h_open] at h
        obtain ⟨⟨members, _⟩, h_read, h_eq⟩ := exists_of_map_eq_ok h
        cases h_eq
        exact .inr (.inl ⟨depth, inner, members, rfl, h_open, rfl, h_read⟩)
  · rw [readValue_scalar _ _ h_array h_object] at h
    obtain ⟨⟨s, _⟩, h_read, h_eq⟩ := exists_of_map_eq_ok h
    cases h_eq
    exact .inr (.inr ⟨s, h_array, h_object, rfl, h_read⟩)

theorem Follows.readEntry {m depth : Nat}
    (hvalue : ∀ cs : List Char, cs.length ≤ n →
      Follows Whatever n (readValue .strict depth cs) (readValue .skipping m cs))
    (members members' : List (String × Value)) (key key' : String) {cs : List Char}
    (h : cs.length ≤ n) :
    Follows Whatever n (Json.readEntry .strict depth members key cs)
      (Json.readEntry .skipping m members' key' cs) := by
  refine Follows.bind_rest (fun rest h_colon => ?_) fun rest h_rest => ?_
  · exact Nat.le_trans (length_of_readColon h_colon) h
  · exact (hvalue rest h_rest).bind fun _ _ _ _ h_rest => .ok trivial h_rest

theorem follows_readValue_scalar (depth depth' : Nat) {cs : List Char}
    (harray : ∀ inner, skipSpace cs ≠ '[' :: inner)
    (hobject : ∀ inner, skipSpace cs ≠ '\x7b' :: inner) (h : (skipSpace cs).length ≤ n) :
    Follows Whatever n (readValue .strict depth cs) (readValue .skipping depth' cs) := by
  rw [readValue_scalar _ _ harray hobject, readValue_scalar _ _ harray hobject]
  exact (follows_readScalar h).map fun _ _ _ _ h_rest => .ok trivial h_rest

theorem follows_readValue (depth : Nat) {cs : List Char} (h : cs.length ≤ n) :
    Follows Whatever n (readValue .strict depth cs) (readValue .skipping n cs) := by
  induction depth generalizing n cs with
  | zero =>
      have h_skip := Nat.le_trans (length_skipSpace_le cs) h
      -- the strict reader is as deep as it may go
      rcases opening_cases cs with ⟨inner, h_open⟩ | ⟨inner, h_open⟩ | ⟨h_array, h_object⟩
      · rw [readValue, h_open]
        exact .error _
      · rw [readValue, h_open]
        exact .error _
      · exact follows_readValue_scalar _ _ h_array h_object h_skip
  | succ depth ih =>
      have h_skip := Nat.le_trans (length_skipSpace_le cs) h
      rcases opening_cases cs with ⟨inner, h_open⟩ | ⟨inner, h_open⟩ | ⟨h_array, h_object⟩
      · -- the bracket is the character that the depth of what is passed over is taken from
        rw [h_open] at h_skip
        obtain ⟨m, rfl⟩ := Nat.exists_eq_add_one.2 (Nat.zero_lt_of_lt h_skip)
        rw [readValue_array _ _ h_open, readValue_array _ _ h_open]
        have h_items := Follows.readItems (fun cs => ih) (inner.length + 1) true
          (Nat.le_of_succ_le_succ h_skip)
        exact (h_items.mono (Nat.le_succ m)).map fun _ _ _ _ h_rest => .ok trivial h_rest
      · rw [h_open] at h_skip
        obtain ⟨m, rfl⟩ := Nat.exists_eq_add_one.2 (Nat.zero_lt_of_lt h_skip)
        rw [readValue_object _ _ h_open, readValue_object _ _ h_open]
        have h_members := Follows.readMembers
          (fun s t key key' cs => Follows.readEntry (fun cs => ih) s t key key')
          (inner.length + 1) true [] [] (Nat.le_of_succ_le_succ h_skip)
        exact (h_members.mono (Nat.le_succ m)).map fun _ _ _ _ h_rest => .ok trivial h_rest
      · exact follows_readValue_scalar _ _ h_array h_object h_skip

/-- Where a value can be read, the same value can be passed over. -/
theorem skipValue_of_readValue {depth : Nat} {cs rest : List Char} {value : Value}
    (h : readValue .strict depth cs = .ok (value, rest)) : skipValue cs = .ok rest := by
  obtain ⟨-, skipped, -, h_skipping⟩ := follows_readValue depth (Nat.le_refl _) _ _ h
  rw [skipValue, h_skipping]
  rfl

end Showcase.Json
