import Mathlib.Data.List.Basic
import Showcase.Json.Reader
import Showcase.Options.Write

/-!
# Reading what was written

A reader takes a written value off the front of a text and leaves what follows. Strings are
read character by character, each of them written as itself, as a short escape or by its code
point. A count is read back digit by digit: below `2 ^ 64` all its digits fit into the
significand, so it also has a value among the doubles, as every number has to have.
-/

namespace Showcase.Json

variable {rest : List Char}

/-- Reading goes on with what was read. -/
theorem ok_bind {α β : Type} (a : α) (read : α → Except JsonError β) :
    (Except.ok a >>= read) = read a := rfl

theorem throw_bind {α β : Type} (e : JsonError) (read : α → Except JsonError β) :
    (throw e >>= read) = throw e := rfl

/-- What succeeds in two steps has succeeded in the first. -/
theorem exists_of_bind_eq_ok {ε α β : Type} {first : Except ε α} {second : α → Except ε β} {b : β}
    (h : (first >>= second) = .ok b) : ∃ a, first = .ok a ∧ second a = .ok b := by
  cases first with
  | error e => cases h
  | ok a => exact ⟨a, rfl, h⟩

theorem exists_of_map_eq_ok {ε α β : Type} {first : Except ε α} {f : α → β} {b : β}
    (h : first.map f = .ok b) : ∃ a, first = .ok a ∧ f a = b := by
  cases first with
  | error e => cases h
  | ok a => exact ⟨a, rfl, Except.ok.inj h⟩

theorem ok_of_mapError {ε ε' α : Type} {first : Except ε α} {f : ε → ε'} {a : α}
    (h : first.mapError f = .ok a) : first = .ok a := by
  cases first with
  | error e => cases h
  | ok b => exact congrArg _ (Except.ok.inj h)

/-! ## Strings -/

theorem hexDigit?_hexDigit {n : Nat} (h : n < 16) : hexDigit? (hexDigit n) = some n := by
  decide +revert

theorem hexValue?_hexDigit {n : Nat} (h : n < 0x100) :
    hexValue? '0' '0' (hexDigit (n / 16)) (hexDigit (n % 16)) = some n := by
  have h_zero : hexDigit? '0' = some 0 := by decide
  have h_value : ((0 * 16 + 0) * 16 + n / 16) * 16 + n % 16 = n := by omega
  rw [hexValue?, h_zero, hexDigit?_hexDigit (by omega), hexDigit?_hexDigit (by omega)]
  exact congrArg some h_value

theorem readString_codePoint {n : Nat} (h : n < 0x20) (rest : List Char) :
    readString .strict
        ('\\' :: 'u' :: '0' :: '0' :: hexDigit (n / 16) :: hexDigit (n % 16) :: rest) =
      consChar (Char.ofNat n) (readString .strict rest) := by
  rw [readString]
  rw [hexValue?_hexDigit (by omega)]
  have h_low : n < 0xD800 := by omega
  simp [h_low]

theorem readString_shortEscape {manner : Manner} {c e : Char} (h : shortEscape? c = some e)
    (rest : List Char) :
    readString manner ('\\' :: c :: rest) = consChar e (readString manner rest) := by
  have hc : c ≠ 'u' := by
    rintro rfl
    cases h
  rw [readString, h]
  · rintro a b c' d cs rfl -
    exact hc rfl
  · exact hc

theorem readString_plain {manner : Manner} {c : Char} (hquote : c ≠ '"') (hslash : c ≠ '\\')
    (hspace : 0x20 ≤ c.toNat) (rest : List Char) :
    readString manner (c :: rest) = consChar c (readString manner rest) := by
  rw [readString, if_neg (Nat.not_lt.2 hspace)]
  · exact hquote
  · rintro a b c' d cs rfl -
    exact hslash rfl
  · rintro cs rfl -
    exact hslash rfl
  · rintro rfl -
    exact hslash rfl
  · rintro c' cs rfl -
    exact hslash rfl

/-- A character is written by a short escape, by its code point or as itself. -/
theorem escapedChar_cases (c : Char) :
    (∃ e, escapedChar c = ['\\', e] ∧ shortEscape? e = some c) ∨
      (c.toNat < 0x20 ∧ escapedChar c =
        ['\\', 'u', '0', '0', hexDigit (c.toNat / 16), hexDigit (c.toNat % 16)]) ∨
      (c ≠ '"' ∧ c ≠ '\\' ∧ 0x20 ≤ c.toNat ∧ escapedChar c = [c]) := by
  -- named first, so that the table is split once and not in each of the cases
  generalize h_eq : escapedChar c = written
  unfold escapedChar at h_eq
  split_ifs at h_eq with h_quote h_slash h_back h_feed h_line h_return h_tab h_control
  · exact .inl ⟨'"', h_eq.symm, by subst h_quote; rfl⟩
  · exact .inl ⟨'\\', h_eq.symm, by subst h_slash; rfl⟩
  · exact .inl ⟨'b', h_eq.symm, by subst h_back; rfl⟩
  · exact .inl ⟨'f', h_eq.symm, by subst h_feed; rfl⟩
  · exact .inl ⟨'n', h_eq.symm, by subst h_line; rfl⟩
  · exact .inl ⟨'r', h_eq.symm, by subst h_return; rfl⟩
  · exact .inl ⟨'t', h_eq.symm, by subst h_tab; rfl⟩
  · exact .inr (.inl ⟨h_control, h_eq.symm⟩)
  · exact .inr (.inr ⟨h_quote, h_slash, Nat.not_lt.1 h_control, h_eq.symm⟩)

theorem readString_escapedChar (c : Char) (rest : List Char) :
    readString .strict (escapedChar c ++ rest) = consChar c (readString .strict rest) := by
  rcases escapedChar_cases c with ⟨e, h_eq, h_short⟩ | ⟨h_control, h_eq⟩ |
    ⟨h_quote, h_slash, h_space, h_eq⟩
  · rw [h_eq]
    exact readString_shortEscape h_short rest
  · rw [h_eq]
    show readString .strict ('\\' :: 'u' :: '0' :: '0' :: _ :: _ :: rest) = _
    rw [readString_codePoint h_control, Char.ofNat_toNat]
  · rw [h_eq]
    exact readString_plain h_quote h_slash h_space rest

/-- A string is read up to its closing quote. -/
theorem readString_flatMap_escapedChar (text rest : List Char) :
    readString .strict (text.flatMap escapedChar ++ '"' :: rest) = .ok (text, rest) := by
  induction text with
  | nil => rfl
  | cons c text ih =>
      rw [List.flatMap_cons, List.append_assoc, readString_escapedChar, ih]
      rfl

theorem readScalar_writeString (text rest : List Char) :
    readScalar .strict (writeString text ++ rest) =
      .ok (.string (String.ofList text), rest) := by
  have h_text : writeString text ++ rest =
      '"' :: (text.flatMap escapedChar ++ '"' :: rest) := by
    simp [writeString]
  rw [h_text, readScalar, readString_flatMap_escapedChar]
  rfl

/-! ## Counts -/

/-- Whether a number ends before `rest`. -/
def EndsNumber (rest : List Char) : Prop :=
  ∀ c ∈ rest.head?, c.isDigit = false ∧ c ≠ '.' ∧ c ≠ 'e' ∧ c ≠ 'E'

theorem digitsValue_toDigits (n : Nat) : digitsValue (Nat.toDigits 10 n) = n :=
  Nat.ofDigitChars_ten_toDigits

theorem le_ofDigitChars (digits : List Char) (n : Nat) : n ≤ Nat.ofDigitChars 10 digits n := by
  induction digits generalizing n with
  | nil => exact Nat.le_refl n
  | cons c digits ih =>
      rw [Nat.ofDigitChars_cons]
      exact Nat.le_trans (by omega) (ih _)

/-- All digits of a number below `2 ^ 64` fit into the significand. -/
theorem Scaled.appendWhole_of_lt {digits : List Char} {n : Nat} (e : Int)
    (h : Nat.ofDigitChars 10 digits n < UInt64.size) :
    (Scaled.mk n e).appendWhole digits = ⟨Nat.ofDigitChars 10 digits n, e⟩ := by
  induction digits generalizing n with
  | nil => rfl
  | cons c digits ih =>
      rw [Nat.ofDigitChars_cons] at h ⊢
      have h_fits : (Scaled.mk n e).fits (c.toNat - '0'.toNat) = true :=
        decide_eq_true (Nat.lt_of_le_of_lt (le_ofDigitChars digits _) h)
      rw [appendWhole]
      simp only [h_fits, if_true]
      exact ih h

theorem roundQuotient_le (n unit : Nat) : roundQuotient n unit ≤ n / unit + 1 := by
  unfold roundQuotient
  dsimp only
  split
  · exact Nat.le_succ _
  · exact Nat.le_refl _

/-- Rounding to a double at most doubles a number. -/
theorem roundToDouble_le (n : Nat) : roundToDouble n ≤ 2 * n := by
  unfold roundToDouble
  split
  · omega
  · rename_i h_large
    obtain ⟨unit, h_unit⟩ : ∃ unit, unit = Nat.pow 2 (n.log2 - 52) := ⟨_, rfl⟩
    have h_ne : n ≠ 0 := by
      rintro rfl
      exact h_large (Nat.pow_pos (by decide))
    have h_le : unit ≤ n := by
      rw [h_unit]
      exact Nat.le_trans (Nat.pow_le_pow_right (by decide) (Nat.sub_le _ _))
        (Nat.log2_self_le h_ne)
    simp only [← h_unit]
    calc roundQuotient n unit * unit
        ≤ (n / unit + 1) * unit := Nat.mul_le_mul_right unit (roundQuotient_le n unit)
      _ = n / unit * unit + unit := by rw [Nat.add_mul, Nat.one_mul]
      _ ≤ n + n := Nat.add_le_add (Nat.div_mul_le_self n unit) h_le
      _ = 2 * n := by omega

/-- A count below `2 ^ 64` has a value among the doubles. -/
theorem isFinite_of_lt {n : Nat} (h : n < UInt64.size) : (Scaled.mk n 0).isFinite = true := by
  have h_limit : 2 * UInt64.size ≤ doubleLimit := by decide +kernel
  have h_round : roundToDouble n < doubleLimit := by
    have h_le := roundToDouble_le n
    omega
  have h_one : roundToDouble (Nat.pow 10 (0 : Int).toNat) = 1 := by decide +kernel
  unfold Scaled.isFinite
  simp only [h_one, Nat.mul_one, h_round]
  simp

open Number (ofCount)

theorem toCount?_ofCount (n : UInt64) : (ofCount n).toCount? = some n := by
  have h_value : digitsValue (ofCount n).whole = n.toNat := digitsValue_toDigits n.toNat
  rw [Number.toCount?, if_neg (by simp [ofCount])]
  simp only [h_value]
  rw [if_pos n.toNat_lt_size, UInt64.ofNat_toNat]

theorem isFinite_ofCount (n : UInt64) : (ofCount n).isFinite = true := by
  have h_lt : Nat.ofDigitChars 10 (ofCount n).whole 0 < UInt64.size := by
    rw [ofCount, Nat.ofDigitChars_ten_toDigits]
    exact n.toNat_lt_size
  have h_scaled : (ofCount n).scaled = ⟨n.toNat, 0⟩ := by
    have h_whole := Scaled.appendWhole_of_lt 0 h_lt
    rw [ofCount, Nat.ofDigitChars_ten_toDigits] at h_whole
    simp only [Number.scaled, ofCount, h_whole]
    rfl
  rw [Number.isFinite, h_scaled]
  exact isFinite_of_lt n.toNat_lt_size

/-- Only zero is written with a zero in front. -/
theorem eq_zero_of_head?_toDigits {n : Nat} (h : (Nat.toDigits 10 n).head? = some '0') :
    n = 0 := by
  induction n using Nat.strongRecOn with
  | _ n ih =>
      by_cases hn : n < 10
      · rw [Nat.toDigits_of_lt_base hn, List.head?_cons, Option.some_inj] at h
        rw [← Nat.toNat_digitChar_sub_48_of_lt_ten hn, h]
        rfl
      · rw [Nat.toDigits_of_base_le (by decide) (Nat.not_lt.1 hn),
          List.head?_append_of_ne_nil _ Nat.toDigits_ne_nil] at h
        have h_front := ih (n / 10) (by omega) h
        omega

theorem isDigit_of_mem_whole {n : UInt64} {c : Char} (h : c ∈ (ofCount n).whole) :
    c.isDigit = true :=
  Nat.isDigit_of_mem_toDigits (by decide) (by decide) h

theorem whole_ofCount_ne_nil (n : UInt64) : (ofCount n).whole ≠ [] :=
  Nat.toDigits_ne_nil

theorem readDigits_whole (n : UInt64) (h : EndsNumber rest) :
    readDigits .strict ((ofCount n).whole ++ rest) = .ok ((ofCount n).whole, rest) := by
  have h_rest : rest.takeWhile Char.isDigit = [] ∧ rest.dropWhile Char.isDigit = rest := by
    cases rest with
    | nil => exact ⟨rfl, rfl⟩
    | cons c rest =>
        have hc : ¬ c.isDigit = true := by simp [(h c rfl).1]
        exact ⟨List.takeWhile_cons_of_neg hc, List.dropWhile_cons_of_neg hc⟩
  have h_take : ((ofCount n).whole ++ rest).takeWhile Char.isDigit =
      (ofCount n).whole := by
    rw [List.takeWhile_append_of_pos fun c hc => isDigit_of_mem_whole hc, h_rest.1,
      List.append_nil]
  have h_drop : ((ofCount n).whole ++ rest).dropWhile Char.isDigit = rest := by
    rw [List.dropWhile_append_of_pos fun c hc => isDigit_of_mem_whole hc, h_rest.2]
  unfold readDigits
  simp only [h_take, h_drop]
  rw [if_neg]
  rw [List.isEmpty_iff]
  exact whole_ofCount_ne_nil n

theorem readFraction_of_endsNumber (h : EndsNumber rest) :
    readFraction .strict rest = .ok (none, rest) := by
  rw [readFraction]
  rintro cs rfl
  exact (h '.' rfl).2.1 rfl

theorem readExponent_of_endsNumber (h : EndsNumber rest) :
    readExponent .strict rest = .ok (none, rest) := by
  cases rest with
  | nil => rfl
  | cons c rest =>
      obtain ⟨-, -, h_small, h_capital⟩ := h c rfl
      rw [readExponent, if_neg (by simp [h_small, h_capital])]

theorem head?_whole_ne (n : UInt64) {c : Char} (hc : c.isDigit = false) (rest : List Char) :
    ((ofCount n).whole ++ rest).head? ≠ some c := by
  rw [List.head?_append_of_ne_nil _ (whole_ofCount_ne_nil n)]
  intro h_head
  rw [isDigit_of_mem_whole (List.mem_of_mem_head? h_head)] at hc
  cases hc

/-- A count is read up to what cannot go on with it. -/
theorem readNumber_whole (n : UInt64) (h : EndsNumber rest) :
    readNumber .strict ((ofCount n).whole ++ rest) = .ok (ofCount n, rest) := by
  have h_zero : ¬ ((ofCount n).whole.head? = some '0' ∧
      (ofCount n).whole.length ≠ 1) := by
    rintro ⟨h_head, h_length⟩
    have h_n : n.toNat = 0 := eq_zero_of_head?_toDigits h_head
    rw [ofCount, h_n] at h_length
    exact h_length rfl
  unfold readNumber
  split
  rename_i negative cs h_sign
  split at h_sign
  · rename_i cs' h_minus
    exact absurd (congrArg List.head? h_minus) (head?_whole_ne n rfl rest)
  · obtain ⟨rfl, rfl⟩ := Prod.mk.inj h_sign
    have h_leading : (decide ((ofCount n).whole.head? = some '0') &&
        decide ((ofCount n).whole.length ≠ 1)) = false := by
      simpa using h_zero
    have h_finite : ({ negative := false, whole := (ofCount n).whole } : Number).isFinite =
        true := isFinite_ofCount n
    simp only [readDigits_whole n h, ok_bind, h_leading, readFraction_of_endsNumber h,
      readExponent_of_endsNumber h, h_finite]
    rfl

theorem writeNumber_ofCount (n : UInt64) : writeNumber (ofCount n) = (ofCount n).whole := by
  simp [writeNumber, ofCount]

theorem readScalar_writeNumber (n : UInt64) (h : EndsNumber rest) :
    readScalar .strict (writeNumber (ofCount n) ++ rest) = .ok (.number (ofCount n), rest) := by
  have h_number := readNumber_whole n h
  rw [writeNumber_ofCount]
  obtain ⟨c, cs, h_whole⟩ := List.exists_cons_of_ne_nil (whole_ofCount_ne_nil n)
  have h_digit : c.isDigit = true :=
    isDigit_of_mem_whole (h_whole ▸ List.mem_cons_self)
  have h_ne (w : Char) (hw : w.isDigit = false) : c ≠ w := by
    rintro rfl
    rw [h_digit] at hw
    cases hw
  rw [h_whole, List.cons_append] at h_number ⊢
  rw [readScalar, if_pos (by simp [h_digit]), h_number]
  · rfl
  · exact h_ne 'n' rfl
  · exact h_ne 't' rfl
  · exact h_ne 'f' rfl
  · exact h_ne '"' rfl

/-- What is read as a value without parts starts with no space and opens nothing. -/
theorem skipSpace_of_readScalar {cs : List Char} {value : Scalar}
    (h : readScalar .strict cs = .ok (value, rest)) :
    skipSpace cs = cs ∧ (∀ inner, cs ≠ '[' :: inner) ∧ ∀ inner, cs ≠ '\x7b' :: inner := by
  cases cs with
  | nil => cases h
  | cons c cs =>
      have h_ne (w : Char) (hw : readScalar .strict (w :: cs) = .error .malformed) : c ≠ w := by
        rintro rfl
        rw [h] at hw
        cases hw
      have h_space : isSpace c = false := by
        simp [isSpace, h_ne ' ' rfl, h_ne '\n' rfl, h_ne '\t' rfl, h_ne '\r' rfl]
      refine ⟨?_, ?_, ?_⟩
      · rw [skipSpace, List.dropWhile_cons_of_neg (by simp [h_space])]
      · intro inner h_open
        exact h_ne '[' rfl (List.cons.inj h_open).1
      · intro inner h_open
        exact h_ne '\x7b' rfl (List.cons.inj h_open).1

/-! ## Members -/

/-- What stands between two members, and before the first one. -/
def memberStart (first : Bool) : List Char :=
  if first then ['\n', ' ', ' '] else [',', '\n', ' ', ' ']

/-- A member starts with its key, behind the comma if one is due. -/
theorem readMembers_key {σ : Type} (member : σ → String → Reader σ) (fuel : Nat) (first : Bool)
    (state : σ) (cs : List Char) :
    readMembers .strict member (fuel + 1) first state (memberStart first ++ '"' :: cs) =
      (readString .strict cs >>= fun key =>
        member state (String.ofList key.1) key.2 >>= fun read =>
          readMembers .strict member fuel false read.1 read.2) := by
  cases first with
  | true => rfl
  | false => rfl

theorem readMembers_writeString {σ : Type} {member : σ → String → Reader σ} (fuel : Nat)
    (first : Bool) {state state' : σ} {name : String} {cs : List Char}
    (h : member state name cs = .ok (state', rest)) :
    readMembers .strict member (fuel + 1) first state
        (memberStart first ++ writeString name.toList ++ cs) =
      readMembers .strict member fuel false state' rest := by
  have h_start : memberStart first ++ writeString name.toList ++ cs =
      memberStart first ++ '"' :: (name.toList.flatMap escapedChar ++ '"' :: cs) := by
    simp [writeString]
  rw [h_start, readMembers_key, readString_flatMap_escapedChar, ok_bind, String.ofList_toList, h,
    ok_bind]

theorem readMembers_end {σ : Type} (member : σ → String → Reader σ) (fuel : Nat) (first : Bool)
    (state : σ) (rest : List Char) :
    readMembers .strict member (fuel + 1) first state ('\n' :: '\x7d' :: rest) =
      .ok (state, rest) := rfl

/-- The lines of the given members. Every line but the first has its comma in front of it,
which is where the reader takes it. -/
def writeFrom : Bool → List (String × Scalar) → List Char
  | _, [] => []
  | first, (name, value) :: members =>
    memberStart first ++ writeString name.toList ++
      ':' :: ' ' :: (writeScalar value ++ writeFrom false members)

theorem comma_writeMembers (member : String × Scalar) (members : List (String × Scalar)) :
    ',' :: writeMembers (member :: members) = writeFrom false (member :: members) := by
  induction members generalizing member with
  | nil => simp [writeMembers, writeMembers.writeMember, writeFrom, memberStart]
  | cons next members ih =>
      have h_more : writeMembers (member :: next :: members) =
          writeMembers.writeMember member ++ ',' :: writeMembers (next :: members) := rfl
      have h_line : ',' :: writeMembers.writeMember member ++ writeFrom false (next :: members) =
          writeFrom false (member :: next :: members) := by
        simp [writeMembers.writeMember, writeFrom, memberStart]
      rw [h_more, ih]
      exact h_line

theorem writeMembers_eq_writeFrom (members : List (String × Scalar)) :
    writeMembers members = writeFrom true members := by
  cases members with
  | nil => rfl
  | cons member members =>
      have h_comma := comma_writeMembers member members
      simp only [writeFrom, memberStart] at h_comma ⊢
      exact (List.cons.inj h_comma).2

/-- A count is followed by a comma or by a line feed. -/
theorem endsNumber_writeFrom (members : List (String × Scalar)) (rest : List Char) :
    EndsNumber (writeFrom false members ++ '\n' :: rest) := by
  cases members with
  | nil =>
      intro c hc
      obtain rfl : '\n' = c := Option.some_inj.1 hc
      decide
  | cons member members =>
      intro c hc
      obtain rfl : ',' = c := Option.some_inj.1 hc
      decide

theorem length_le_length_writeFrom (first : Bool) (members : List (String × Scalar)) :
    members.length ≤ (writeFrom first members).length := by
  induction members generalizing first with
  | nil => exact Nat.le_refl _
  | cons member members ih =>
      have h_rest := ih false
      simp only [writeFrom, List.length_append, List.length_cons]
      omega

/-! ## Objects -/

section Written

variable {σ κ : Type}

/-- What takes a reader of members through the written ones, which are told by keys: in a state
that is ready for the keys to come, it reads what is written for the first of them, and is ready
for the others. -/
structure ReadsWritten (field : κ → String × Scalar) (member : σ → String → Reader σ)
    (next : σ → κ → σ) (Ready : List κ → σ → Prop) : Prop where
  ready : ∀ {key keys state}, Ready (key :: keys) state → Ready keys (next state key)
  read : ∀ {key keys state rest}, Ready (key :: keys) state → EndsNumber rest →
    member state (field key).1 (':' :: ' ' :: (writeScalar (field key).2 ++ rest)) =
      .ok (next state key, rest)

variable {field : κ → String × Scalar} {member : σ → String → Reader σ} {next : σ → κ → σ}
  {Ready : List κ → σ → Prop} {state : σ} {keys : List κ}

/-- The written members are read one after the other. -/
theorem ReadsWritten.readMembers_writeFrom (h : ReadsWritten field member next Ready) {fuel : Nat}
    (first : Bool) (rest : List Char) (hfuel : keys.length < fuel) (hready : Ready keys state) :
    readMembers .strict member fuel first state
        (writeFrom first (keys.map field) ++ '\n' :: '\x7d' :: rest) =
      .ok (keys.foldl next state, rest) := by
  -- on the keys not read yet; `state` is what those before them came to
  induction keys generalizing fuel first state with
  | nil =>
      obtain ⟨fuel, rfl⟩ := Nat.exists_eq_add_one.2 hfuel
      exact readMembers_end member fuel first state rest
  | cons key keys ih =>
      obtain ⟨fuel, rfl⟩ := Nat.exists_eq_add_one.2 (Nat.zero_lt_of_lt hfuel)
      have h_member := h.read hready (endsNumber_writeFrom (keys.map field) ('\x7d' :: rest))
      have h_text : writeFrom first ((key :: keys).map field) ++ '\n' :: '\x7d' :: rest =
          memberStart first ++ writeString (field key).1.toList ++
            ':' :: ' ' :: (writeScalar (field key).2 ++
              (writeFrom false (keys.map field) ++ '\n' :: '\x7d' :: rest)) := by
        simp [writeFrom]
      rw [h_text, readMembers_writeString fuel first h_member,
        ih false (Nat.lt_of_succ_lt_succ hfuel) (h.ready hready), List.foldl_cons]

/-- A written object is read up to its end. -/
theorem ReadsWritten.exists_readMembers_writeObject (h : ReadsWritten field member next Ready)
    (hready : Ready keys state) :
    ∃ cs, writeObject (keys.map field) = '\x7b' :: cs ∧
      readMembers .strict member (cs.length + 1) true state cs =
        .ok (keys.foldl next state, []) := by
  refine ⟨writeFrom true (keys.map field) ++ ['\n', '\x7d'], ?_, ?_⟩
  · rw [writeObject, writeMembers_eq_writeFrom]
    rfl
  · apply h.readMembers_writeFrom true [] ?_ hready
    have h_length := length_le_length_writeFrom true (keys.map field)
    rw [List.length_map] at h_length
    rw [List.length_append]
    omega

end Written

end Showcase.Json
