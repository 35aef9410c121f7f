import Showcase.Options.Key

/-!
# Writing options as JSON

An object with one line for each option, indented by two spaces. In a string, quotes,
backslashes and controls are escaped and nothing else.
-/

namespace Showcase

namespace Json

/-- The digit with value `n` in base 16, a small letter from ten on. -/
def hexDigit (n : Nat) : Char :=
  Nat.digitChar n

def escapedChar (c : Char) : List Char :=
  if c = '"' then ['\\', '"']
  else if c = '\\' then ['\\', '\\']
  else if c = '\x08' then ['\\', 'b']
  else if c = '\x0c' then ['\\', 'f']
  else if c = '\n' then ['\\', 'n']
  else if c = '\r' then ['\\', 'r']
  else if c = '\t' then ['\\', 't']
  else if c.toNat < 0x20 then
    ['\\', 'u', '0', '0', hexDigit (c.toNat / 16), hexDigit (c.toNat % 16)]
  else [c]

def writeString (text : List Char) : List Char :=
  '"' :: text.flatMap escapedChar ++ ['"']

/-- A number by the digits that it is kept as. -/
def writeNumber (n : Number) : List Char :=
  (if n.negative then ['-'] else []) ++ n.whole ++
    n.fraction.elim [] (fun digits => '.' :: digits) ++
    n.exponent.elim [] fun e => 'e' :: if e.1 then '-' :: e.2 else e.2

def writeScalar : Scalar → List Char
  | .null => "null".toList
  | .bool b => if b then "true".toList else "false".toList
  | .number n => writeNumber n
  | .string s => writeString s.toList

/-- The lines of the given members, each but the last with a comma. -/
def writeMembers : List (String × Scalar) → List Char
  | [] => []
  | [member] => writeMember member
  | member :: members => writeMember member ++ ',' :: writeMembers members
where
  /-- The line of a member, from the line feed before it on. -/
  writeMember (member : String × Scalar) : List Char :=
    ['\n', ' ', ' '] ++ writeString member.1.toList ++ [':', ' '] ++ writeScalar member.2

def writeObject (members : List (String × Scalar)) : List Char :=
  '\x7b' :: writeMembers members ++ ['\n', '\x7d']

end Json

namespace Options

def toJson (o : Options) : Except BrowseError String :=
  (o.fields.map fun fields => String.ofList (Json.writeObject fields)).mapError .json

end Options

end Showcase
