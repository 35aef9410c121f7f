/-!
# Bytes that are no text

Bytes are shown as the characters that they are in UTF-8. Where they stop being the start of
a character, what there was of it is shown as the replacement character, and reading goes on
with the byte that did not fit.
-/

namespace Showcase.Text

/-- The ranges of the bytes that follow the first byte of a character, unless no character
starts with it. -/
def followers? (first : UInt8) : Option (List (UInt8 × UInt8)) :=
  if first < 0x80 then some []
  else if first < 0xC2 then none
  else if first < 0xE0 then some [(0x80, 0xBF)]
  else if first = 0xE0 then some [(0xA0, 0xBF), (0x80, 0xBF)]
  else if first = 0xED then some [(0x80, 0x9F), (0x80, 0xBF)]
  else if first < 0xF0 then some [(0x80, 0xBF), (0x80, 0xBF)]
  else if first = 0xF0 then some [(0x90, 0xBF), (0x80, 0xBF), (0x80, 0xBF)]
  else if first < 0xF4 then some [(0x80, 0xBF), (0x80, 0xBF), (0x80, 0xBF)]
  else if first = 0xF4 then some [(0x80, 0x8F), (0x80, 0xBF), (0x80, 0xBF)]
  else none

/-- The first bytes, as far as each lies in the range for it. -/
def takeFollowers : List (UInt8 × UInt8) → List UInt8 → List UInt8
  | (low, high) :: ranges, b :: bs =>
    if low ≤ b ∧ b ≤ high then b :: takeFollowers ranges bs else []
  | _, _ => []

/-- The character with this first byte and these bytes behind it, each of which holds six bits. -/
def charOfBytes (first : UInt8) (behind : List UInt8) : Char :=
  let high :=
    if behind.isEmpty then first.toNat else first.toNat % Nat.pow 2 (6 - behind.length)
  Char.ofNat (behind.foldl (fun n b => 64 * n + b.toNat % 64) high)

/-- The characters that bytes are shown as. -/
def lossy : List UInt8 → List Char
  | [] => []
  | first :: bs =>
    match followers? first with
    | none => '\ufffd' :: lossy bs
    | some ranges =>
      let behind := takeFollowers ranges bs
      let c := if behind.length = ranges.length then charOfBytes first behind else '\ufffd'
      c :: lossy (bs.drop behind.length)
termination_by bs => bs.length
decreasing_by
  · exact Nat.lt_succ_self _
  · rw [List.length_drop, List.length_cons]
    omega

end Showcase.Text
