import AgentCanvas.Json.Basic
import AgentCanvas.Number.Shortest
import AgentCanvas.Text.CodeRange
import AgentCanvas.Text.PrintableTable

/-!
# Values shown in messages

How a message shows a value that it refuses: texts in single quotes, or in double quotes where that
saves escaping, characters that cannot be printed by their number, and the constants as `None`,
`True` and `False`.
-/

namespace AgentCanvas.Json

/-- A number as so many hexadecimal digits. -/
def hexDigits : Nat → Nat → List Char
  | 0, _ => []
  | count + 1, n => hexDigits count (n / 16) ++ [Nat.digitChar (n % 16)]

/-- How a character is shown between quotes of the given kind. -/
def displayChar (mark c : Char) : List Char :=
  if c = mark ∨ c = '\\' then ['\\', c]
  else if c = '\n' then ['\\', 'n']
  else if c = '\r' then ['\\', 'r']
  else if c = '\t' then ['\\', 't']
  else if !Text.inRanges Text.unprintableRanges c then [c]
  else if c.toNat < 0x100 then '\\' :: 'x' :: hexDigits 2 c.toNat
  else if c.toNat < 0x10000 then '\\' :: 'u' :: hexDigits 4 c.toNat
  else '\\' :: 'U' :: hexDigits 8 c.toNat

/-- Double quotes are used for a text that holds single quotes and no double ones. -/
def quoteMark (cs : List Char) : Char :=
  if cs.contains '\'' && !cs.contains '"' then '"' else '\''

/-- A text as it is shown. -/
def displayText (s : String) : List Char :=
  let mark := quoteMark s.toList
  mark :: (s.toList.flatMap (displayChar mark) ++ [mark])

mutual

/-- The characters that show a value. -/
def displayValue : Json → List Char
  | .null => "None".toList
  | .bool value => (if value then "True" else "False").toList
  | .int value => (Int.repr value).toList
  | .float value => value.toText.toList
  | .str value => displayText value
  | .arr items => '[' :: displayItems items
  | .obj members => '\x7b' :: displayMembers members

/-- The items of an array with the closing bracket. -/
def displayItems : List Json → List Char
  | [] => [']']
  | [item] => displayValue item ++ [']']
  | item :: rest => displayValue item ++ ',' :: ' ' :: displayItems rest

/-- The members of an object with the closing brace. -/
def displayMembers : List (String × Json) → List Char
  | [] => ['\x7d']
  | [(key, value)] => displayText key ++ ':' :: ' ' :: (displayValue value ++ ['\x7d'])
  | (key, value) :: rest =>
    displayText key ++ ':' :: ' ' :: (displayValue value ++ ',' :: ' ' :: displayMembers rest)

end

/-- A value as a message shows it. -/
def display (value : Json) : String :=
  String.ofList (displayValue value)

end AgentCanvas.Json
