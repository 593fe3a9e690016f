import AgentCanvas.Json.Basic
import AgentCanvas.Number.Shortest

/-!
# Writing JSON text

JSON text without space, in ASCII: every other character is written as code units, and a
floating-point number by its shortest digits.
-/

namespace AgentCanvas.Json

/-- A code unit as an escape with four hexadecimal digits. -/
def unitEscape (unit : Nat) : List Char :=
  ['\\', 'u', Nat.digitChar (unit / 4096 % 16), Nat.digitChar (unit / 256 % 16),
    Nat.digitChar (unit / 16 % 16), Nat.digitChar (unit % 16)]

/-- How a character is written inside a string. -/
def printChar (c : Char) : List Char :=
  if c = '"' ∨ c = '\\' then ['\\', c]
  else if 0x20 ≤ c.toNat ∧ c.toNat < 0x7F then [c]
  else if c.toNat < 0x10000 then unitEscape c.toNat
  else
    let offset := c.toNat - 0x10000
    unitEscape (0xD800 + offset / 0x400) ++ unitEscape (0xDC00 + offset % 0x400)

/-- A string with its quotes. -/
def printString (s : String) : List Char :=
  '"' :: (s.toList.flatMap printChar ++ ['"'])

/-- A floating-point number; infinite numbers and NaN by their names. -/
def printFloat : Binary64 → String
  | .nan => "NaN"
  | .infinite negative => if negative then "-Infinity" else "Infinity"
  | x => x.toText

mutual

/-- The characters of a value. -/
def printValue : Json → List Char
  | .null => "null".toList
  | .bool value => (if value then "true" else "false").toList
  | .int value => (Int.repr value).toList
  | .float value => (printFloat value).toList
  | .str value => printString value
  | .arr items => '[' :: printItems items
  | .obj members => '\x7b' :: printMembers members

/-- The items of an array with the closing bracket. -/
def printItems : List Json → List Char
  | [] => [']']
  | [item] => printValue item ++ [']']
  | item :: rest => printValue item ++ ',' :: printItems rest

/-- The members of an object with the closing brace. -/
def printMembers : List (String × Json) → List Char
  | [] => ['\x7d']
  | [(key, value)] => printString key ++ ':' :: (printValue value ++ ['\x7d'])
  | (key, value) :: rest =>
    printString key ++ ':' :: (printValue value ++ ',' :: printMembers rest)

end

/-- A value as JSON text. -/
def print (value : Json) : String :=
  String.ofList (printValue value)

end AgentCanvas.Json
