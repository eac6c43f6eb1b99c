import SpriteStage.Json.Basic
import SpriteStage.Number.Notation

/-!
# Writing a JSON value

`Json.compact` writes a value on one line without blanks and `Json.pretty` over lines indented by
two spaces. Both write doubles by `Json.numbers` and escape in strings the quote, the backslash and
the control characters only.
-/

namespace SpriteStage.Json

/-- Doubles have the fewest digits that read back and always a point or an exponent. They are
written positionally from `10 ^ -5` up to `10 ^ 16`. What is not finite is `null`. -/
def numbers : NumberStyle where
  tie := .toEven
  positional := some (-5, 16)
  whole := ".0"
  nan := "null"
  infinity := "null"

/-- A character of a string as it is written. -/
def escaped (c : Char) : List Char :=
  if c = '"' then ['\\', '"']
  else if c = '\\' then ['\\', '\\']
  else if c = '\x08' then ['\\', 'b']
  else if c = '\t' then ['\\', 't']
  else if c = '\n' then ['\\', 'n']
  else if c = '\x0c' then ['\\', 'f']
  else if c = '\r' then ['\\', 'r']
  else if c.toNat < 0x20 then
    ['\\', 'u', '0', '0', Nat.digitChar (c.toNat / 16), Nat.digitChar (c.toNat % 16)]
  else [c]

/-- A text between quotes. -/
def quoted (s : String) : String :=
  String.ofList ('"' :: s.toList.flatMap escaped ++ ['"'])

/-- The text of a value without parts. -/
def scalarText : Json → String
  | .bool b => if b then "true" else "false"
  | .int n => toString n
  | .real x => if x.isFinite then numbers.write x else "null"
  | .text s => quoted s
  | _ => "null"

/-- How the parts of a value are set apart. -/
structure Spacing where
  /-- What comes after a bracket or a comma when the next part lies so deep. -/
  line : Nat → String
  colon : String

mutual

/-- The text of a value at a depth. -/
def write (s : Spacing) (depth : Nat) : Json → String
  | .array [] => "[]"
  | .array (j :: rest) =>
    "[" ++ s.line (depth + 1) ++ write s (depth + 1) j ++ writeItems s depth rest
  | .object [] => "\x7b\x7d"
  | .object ((name, j) :: rest) =>
    "\x7b" ++ s.line (depth + 1) ++ quoted name ++ s.colon ++ write s (depth + 1) j ++
      writeMembers s depth rest
  | j => j.scalarText

/-- The text of the items after the first and of the end of the array. -/
def writeItems (s : Spacing) (depth : Nat) : List Json → String
  | [] => s.line depth ++ "]"
  | j :: rest => "," ++ s.line (depth + 1) ++ write s (depth + 1) j ++ writeItems s depth rest

/-- The text of the members after the first and of the end of the object. -/
def writeMembers (s : Spacing) (depth : Nat) : List (String × Json) → String
  | [] => s.line depth ++ "\x7d"
  | (name, j) :: rest =>
    "," ++ s.line (depth + 1) ++ quoted name ++ s.colon ++ write s (depth + 1) j ++
      writeMembers s depth rest

end

/-- The text of a value on one line. -/
def compact (j : Json) : String := j.write ⟨fun _ => "", ":"⟩ 0

/-- The text of a value with every part on a line of its own. -/
def pretty (j : Json) : String :=
  j.write ⟨fun depth => "\n" ++ String.ofList (List.replicate (2 * depth) ' '), ": "⟩ 0

end SpriteStage.Json
