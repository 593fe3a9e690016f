/-!
# Faults in JSON text

Why a text is no JSON value, and where. A reader knows a place by how many characters of the text
are left there; a reader of the whole text turns that into an offset, a line and a column.

## Key definitions

- `Fault`: a cause and a place.
- `Fault.message`: the wording, with line and column counted from one.
-/

namespace AgentCanvas.Json

/-- Why a text is no JSON value. -/
inductive Cause where
  | expectingValue
  | expectingKey
  | expectingColon
  | expectingComma
  | unterminatedString
  | controlCharacter
  | invalidEscape
  | invalidCodeUnit
  | extraData
  | byteOrderMark
  /-- An integer of so many digits, more than are converted. -/
  | longInteger {limit : Nat} (digits : Nat)
  /-- An array or an object inside more others than are read. -/
  | deepArray
  | deepObject
  /-- Half of a pair of code units, which stands for no character. -/
  | halfPair
  deriving DecidableEq

/-- Whether a cause is a limit of the reader and not a fault of the text. Half of a pair is no fault
either, but texts are made of characters and have no place for it. -/
def Cause.isLimit : Cause → Bool
  | .longInteger _ | .deepArray | .deepObject | .halfPair => true
  | _ => false

/-- A cause and the number of characters from its place to the end of the text. -/
structure Fault where
  cause : Cause
  left : Nat

/-- The wording of a cause. -/
def Cause.message : Cause → String
  | .expectingValue => "Expecting value"
  | .expectingKey => "Expecting property name enclosed in double quotes"
  | .expectingColon => "Expecting ':' delimiter"
  | .expectingComma => "Expecting ',' delimiter"
  | .unterminatedString => "Unterminated string starting at"
  | .controlCharacter => "Invalid control character at"
  | .invalidEscape => "Invalid \\escape"
  | .invalidCodeUnit => "Invalid \\uXXXX escape"
  | .extraData => "Extra data"
  | .byteOrderMark => "Unexpected UTF-8 BOM (decode using utf-8-sig)"
  | @longInteger limit digits =>
    "Exceeds the limit (" ++ Nat.repr limit ++
      " digits) for integer string conversion: value has " ++ Nat.repr digits ++
      " digits; use sys.set_int_max_str_digits() to increase the limit"
  | .deepArray =>
    "maximum recursion depth exceeded while decoding a JSON array from a unicode string"
  | .deepObject =>
    "maximum recursion depth exceeded while decoding a JSON object from a unicode string"
  | .halfPair => "Unpaired \\uXXXX escape"

/-- The offset of a fault in its text. -/
def Fault.offset (text : List Char) (fault : Fault) : Nat :=
  text.length - fault.left

/-- The number of the line that an offset lies on, from one. -/
def lineOf (text : List Char) (offset : Nat) : Nat :=
  (text.take offset).count '\n' + 1

/-- The column of an offset in its line, from one. -/
def columnOf (text : List Char) (offset : Nat) : Nat :=
  ((text.take offset).reverse.takeWhile (· ≠ '\n')).length + 1

/-- The wording of a fault together with its place. -/
def Fault.message (text : List Char) (fault : Fault) : String :=
  let offset := fault.offset text
  fault.cause.message ++ ": line " ++ Nat.repr (lineOf text offset) ++ " column " ++
    Nat.repr (columnOf text offset) ++ " (char " ++ Nat.repr offset ++ ")"

end AgentCanvas.Json
