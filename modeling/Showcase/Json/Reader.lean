import Showcase.Error
import Showcase.Json.Basic

/-!
# Reading JSON

A reader takes a value off the front of a text and gives what follows it, or the first
problem it meets from the left. There are two ways to read. A value that is wanted is read
strictly. A value that is only skipped is held to the grammar, but not to what a value
could be made of: it may hold unpaired surrogate escapes and numbers beyond all doubles,
it may be nested to any depth, and a number that is cut off counts as malformed where the
strict reader reports the end of the text.
-/

namespace Showcase.Json

/-- Takes a value off the front of a text. -/
abbrev Reader (α : Type) := List Char → Except JsonError (α × List Char)

/-- How closely a value is looked at. -/
inductive Manner
  | strict
  | skipping
  deriving DecidableEq, Repr, Inhabited

def isSpace (c : Char) : Bool :=
  c == ' ' || c == '\n' || c == '\t' || c == '\r'

def skipSpace (cs : List Char) : List Char :=
  cs.dropWhile isSpace

/-! ## Strings -/

def hexDigit? (c : Char) : Option Nat :=
  if '0' ≤ c && c ≤ '9' then some (c.toNat - '0'.toNat)
  else if 'a' ≤ c && c ≤ 'f' then some (c.toNat - 'a'.toNat + 10)
  else if 'A' ≤ c && c ≤ 'F' then some (c.toNat - 'A'.toNat + 10)
  else none

def hexValue? (a b c d : Char) : Option Nat := do
  let a ← hexDigit? a
  let b ← hexDigit? b
  let c ← hexDigit? c
  let d ← hexDigit? d
  some (((a * 16 + b) * 16 + c) * 16 + d)

/-- The character that a backslash and the letter `c` stand for. -/
def shortEscape? (c : Char) : Option Char :=
  if c = '"' || c = '\\' || c = '/' then some c
  else if c = 'b' then some '\x08'
  else if c = 'f' then some '\x0c'
  else if c = 'n' then some '\n'
  else if c = 'r' then some '\r'
  else if c = 't' then some '\t'
  else none

/-- What is wrong with fewer than four characters where hexadecimal digits are due: the text
ends too early, unless the characters make up four bytes. -/
def shortHexError (cs : List Char) : JsonError :=
  if cs.foldl (fun size c => size + c.utf8Size) 0 < 4 then .endOfText else .malformed

/-- Puts a character in front of the string read so far. -/
def consChar (c : Char) (read : Except JsonError (List Char × List Char)) :
    Except JsonError (List Char × List Char) :=
  read.map fun (text, rest) => (c :: text, rest)

/-- Reads a string whose opening quote has been taken. -/
def readString (manner : Manner) : Reader (List Char)
  | [] => .error .endOfText
  | '"' :: cs => .ok ([], cs)
  | '\\' :: 'u' :: a :: b :: c :: d :: cs =>
    match hexValue? a b c d with
    | none => .error .malformed
    | some high =>
      if manner = .skipping || high < 0xD800 || 0xE000 ≤ high then
        consChar (Char.ofNat high) (readString manner cs)
      else if 0xDC00 ≤ high then .error .malformed
      else
        match cs with
        | '\\' :: 'u' :: a :: b :: c :: d :: cs =>
          match hexValue? a b c d with
          | none => .error .malformed
          | some low =>
            if 0xDC00 ≤ low && low < 0xE000 then
              consChar (Char.ofNat (0x10000 + (high - 0xD800) * 0x400 + (low - 0xDC00)))
                (readString manner cs)
            else .error .malformed
        | '\\' :: 'u' :: cs => .error (shortHexError cs)
        | [] => .error .endOfText
        | ['\\'] => .error .endOfText
        | _ => .error .malformed
  | '\\' :: 'u' :: cs => .error (shortHexError cs)
  | ['\\'] => .error .endOfText
  | '\\' :: c :: cs =>
    match shortEscape? c with
    | some e => consChar e (readString manner cs)
    | none => .error .malformed
  | c :: cs => if c.toNat < 0x20 then .error .malformed else consChar c (readString manner cs)

/-! ## Numbers and words -/

/-- What is wrong with a number that goes on with `cs` where a digit is due. -/
def missingDigit (manner : Manner) (cs : List Char) : JsonError :=
  if cs.isEmpty && manner = .strict then .endOfText else .malformed

/-- Takes the sign off an exponent: whether it is a minus, and what follows it. -/
def takeSign : List Char → Bool × List Char
  | '-' :: cs => (true, cs)
  | '+' :: cs => (false, cs)
  | cs => (false, cs)

def readDigits (manner : Manner) : Reader (List Char) := fun cs =>
  let digits := cs.takeWhile Char.isDigit
  if digits.isEmpty then .error (missingDigit manner cs)
  else .ok (digits, cs.dropWhile Char.isDigit)

/-- Reads the digits behind a decimal point, if there is one. -/
def readFraction (manner : Manner) : Reader (Option (List Char))
  | '.' :: cs => (readDigits manner cs).map fun (digits, rest) => (some digits, rest)
  | cs => .ok (none, cs)

def readExponent (manner : Manner) : Reader (Option (Bool × List Char))
  | c :: cs =>
    if c = 'e' || c = 'E' then
      let (negative, cs) := takeSign cs
      (readDigits manner cs).map fun (digits, rest) => (some (negative, digits), rest)
    else .ok (none, c :: cs)
  | [] => .ok (none, [])

/-- Reads a number. It has no leading zeros, and unless it is only passed over it has a
value among the doubles. -/
def readNumber (manner : Manner) : Reader Number := fun cs => do
  let (negative, cs) :=
    match cs with
    | '-' :: cs => (true, cs)
    | cs => (false, cs)
  let (whole, cs) ← readDigits manner cs
  if whole.head? = some '0' && whole.length ≠ 1 then throw .malformed
  let (fraction, cs) ← readFraction manner cs
  let (exponent, cs) ← readExponent manner cs
  let number : Number := { negative, whole, fraction, exponent }
  if manner = .strict && !number.isFinite then throw .malformed
  return (number, cs)

def readWord {α : Type} (value : α) : List Char → Reader α
  | [], cs => .ok (value, cs)
  | _ :: _, [] => .error .endOfText
  | w :: ws, c :: cs => if w = c then readWord value ws cs else .error .malformed

/-- Reads a value without parts that starts right here. -/
def readScalar (manner : Manner) : Reader Scalar
  | [] => .error .endOfText
  | 'n' :: cs => readWord .null ['u', 'l', 'l'] cs
  | 't' :: cs => readWord (.bool true) ['r', 'u', 'e'] cs
  | 'f' :: cs => readWord (.bool false) ['a', 'l', 's', 'e'] cs
  | '"' :: cs =>
    (readString manner cs).map fun (text, rest) => (.string (String.ofList text), rest)
  | c :: cs =>
    if c = '-' || c.isDigit then
      (readNumber manner (c :: cs)).map fun (number, rest) => (.number number, rest)
    else .error .malformed

/-! ## Arrays and objects -/

/-- Takes the comma that has to stand before every item but the first. -/
def readComma (first : Bool) : List Char → Except JsonError (List Char)
  | [] => .error .endOfText
  | c :: cs =>
    if first then .ok (c :: cs) else if c = ',' then .ok (skipSpace cs) else .error .malformed

def readColon (cs : List Char) : Except JsonError (List Char) :=
  match skipSpace cs with
  | [] => .error .endOfText
  | ':' :: cs => .ok cs
  | _ => .error .malformed

/-- Reads the items of an array whose bracket has been taken, at most `fuel` of them. -/
def readItems {α : Type} (item : Reader α) : Nat → Bool → Reader (List α)
  | 0, _, _ => .error .malformed
  | fuel + 1, first, cs =>
    match skipSpace cs with
    | ']' :: cs => .ok ([], cs)
    | cs => do
      let cs ← readComma first cs
      let (x, cs) ← item cs
      let (xs, cs) ← readItems item fuel false cs
      return (x :: xs, cs)

/-- Reads the members of an object whose brace has been taken, at most `fuel` of them.
`member` is given what the members so far came to and a key, and reads on behind the key. -/
def readMembers {σ : Type} (manner : Manner) (member : σ → String → Reader σ) :
    Nat → Bool → σ → Reader σ
  | 0, _, _, _ => .error .malformed
  | fuel + 1, first, state, cs =>
    match skipSpace cs with
    | '\x7d' :: cs => .ok (state, cs)
    | cs => do
      match ← readComma first cs with
      | [] => throw .endOfText
      | '"' :: cs =>
        let (key, cs) ← readString manner cs
        let (state, cs) ← member state (String.ofList key) cs
        readMembers manner member fuel false state cs
      | _ => throw .malformed

/-- Reads a value in which at most `depth` arrays and objects are open at a time. Each item
takes up at least one character, so the length of the text bounds their number. -/
def readValue (manner : Manner) : Nat → Reader Value
  | 0, cs =>
    match skipSpace cs with
    | '[' :: _ => .error .malformed
    | '\x7b' :: _ => .error .malformed
    | cs => (readScalar manner cs).map fun (value, rest) => (.scalar value, rest)
  | depth + 1, cs =>
    match skipSpace cs with
    | '[' :: cs =>
      (readItems (readValue manner depth) (cs.length + 1) true cs).map fun (items, rest) =>
        (.array items, rest)
    | '\x7b' :: cs =>
      let member (members : List (String × Value)) (key : String) :
          Reader (List (String × Value)) := fun cs => do
        let cs ← readColon cs
        let (value, cs) ← readValue manner depth cs
        return ((key, value) :: members, cs)
      (readMembers manner member (cs.length + 1) true [] cs).map fun (members, rest) =>
        (.object members, rest)
    | cs => (readScalar manner cs).map fun (value, rest) => (.scalar value, rest)

/-- The number of arrays and objects that may be open at a time in a value that is wanted. -/
def maxDepth : Nat := 127

/-- Passes over a value. Every array or object opens with a character of its own, so the
length of the text bounds the depth. -/
def skipValue (cs : List Char) : Except JsonError (List Char) :=
  (readValue .skipping cs.length cs).map Prod.snd

def finish {α : Type} (read : Except JsonError (α × List Char)) : Except JsonError α := do
  let (value, cs) ← read
  if (skipSpace cs).isEmpty then return value else throw .malformed

def parse (cs : List Char) : Except JsonError Value :=
  finish (readValue .strict maxDepth cs)

end Showcase.Json
