import AgentCanvas.Json.Basic
import AgentCanvas.Json.Fault
import AgentCanvas.Number.Numeral

/-!
# Reading JSON text

A reader for JSON text that names the first fault and its place. Besides JSON it accepts `NaN`,
`Infinity` and `-Infinity`. A numeral without fraction and exponent is an integer, any other a
floating-point number. Of members with one key the last value counts, in the place of the first.

The reader refuses some values that are no faults of their text: integers of very many digits,
values very deep inside others, and strings that escape half of a pair of code units. How much it
takes is a parameter.

Every function takes the characters that are left and returns what it read with the characters
left after it. Two steps of the reader take at least one character, so that fuel of twice the
length of the text is never used up.

## Key definitions

- `Json.Limits`: how much a reader takes.
- `Json.read`: the value that a text stands for, or its fault.
-/

namespace AgentCanvas.Json

/-- What a part of the reader found, with the characters left after it. -/
abbrev Outcome (α : Type) : Type :=
  Except Fault (α × List Char)

/-- Fails at a place, given by the characters from there on. -/
def failAt {α : Type} (cause : Cause) (rest : List Char) : Outcome α :=
  .error ⟨cause, rest.length⟩

/-- The characters that may stand between the tokens of JSON text. -/
def isSpace (c : Char) : Bool :=
  c == ' ' || c == '\t' || c == '\n' || c == '\r'

/-- Leaves out the space at the front. -/
def skipSpace (cs : List Char) : List Char :=
  cs.dropWhile isSpace

/-! ## Strings -/

/-- The value of a hexadecimal digit. -/
def hexValue? (c : Char) : Option Nat :=
  if c.isDigit then some (c.toNat - '0'.toNat)
  else if 'a' ≤ c ∧ c ≤ 'f' then some (c.toNat - 'a'.toNat + 10)
  else if 'A' ≤ c ∧ c ≤ 'F' then some (c.toNat - 'A'.toNat + 10)
  else none

/-- The number that four hexadecimal digits stand for. -/
def codeUnit? (a b c d : Char) : Option Nat := do
  let a ← hexValue? a
  let b ← hexValue? b
  let c ← hexValue? c
  let d ← hexValue? d
  some (((a * 16 + b) * 16 + c) * 16 + d)

/-- Whether a code unit is the first of a pair. -/
def isHighSurrogate (unit : Nat) : Bool :=
  0xD800 ≤ unit && unit ≤ 0xDBFF

/-- Whether a code unit is the second of a pair. -/
def isLowSurrogate (unit : Nat) : Bool :=
  0xDC00 ≤ unit && unit ≤ 0xDFFF

/-- The character of a pair of code units. -/
def charOfPair (high low : Nat) : Char :=
  Char.ofNat (0x10000 + (high - 0xD800) * 0x400 + (low - 0xDC00))

/-- Reads a code unit after its `u`. A further character has to follow the four digits; `place`
is the `u` and what follows it. -/
def readCodeUnit (place : List Char) : List Char → Outcome Nat
  | a :: b :: c :: d :: next :: rest =>
    match codeUnit? a b c d with
    | some unit => .ok (unit, next :: rest)
    | none => failAt .invalidCodeUnit place
  | _ => failAt .invalidCodeUnit place

/-- Reads the second code unit of a pair, behind the first one. -/
def readSecondUnit (place : List Char) (high : Nat) : List Char → Outcome Char
  | '\\' :: 'u' :: cs =>
    match readCodeUnit ('u' :: cs) cs with
    | .error fault => .error fault
    | .ok (low, rest) =>
      if isLowSurrogate low then .ok (charOfPair high low, rest) else failAt .halfPair place
  | _ => failAt .halfPair place

/-- Reads the character that an escape with a code unit stands for, where a pair of code units
stands for one character. -/
def readUnicodeEscape (place cs : List Char) : Outcome Char :=
  match readCodeUnit place cs with
  | .error fault => .error fault
  | .ok (unit, rest) =>
    if isHighSurrogate unit then readSecondUnit place unit rest
    else if isLowSurrogate unit then failAt .halfPair place
    else .ok (Char.ofNat unit, rest)

/-- The character that a one-letter escape stands for. -/
def simpleEscape? (c : Char) : Option Char :=
  if c = '"' ∨ c = '\\' ∨ c = '/' then some c
  else if c = 'b' then some '\x08'
  else if c = 'f' then some '\x0c'
  else if c = 'n' then some '\n'
  else if c = 'r' then some '\r'
  else if c = 't' then some '\t'
  else none

/-- Reads the rest of a string up to its closing quote. `opening` is the text from the opening quote
on, `acc` what has been read, last character first. -/
def readString (opening : List Char) : Nat → List Char → List Char → Outcome String
  | _, _, [] => failAt .unterminatedString opening
  | 0, _, _ => failAt .unterminatedString opening
  | _, acc, '"' :: rest => .ok (String.ofList acc.reverse, rest)
  | _, _, ['\\'] => failAt .unterminatedString opening
  | fuel + 1, acc, '\\' :: 'u' :: rest =>
    match readUnicodeEscape ('u' :: rest) rest with
    | .error fault => .error fault
    | .ok (c, rest) => readString opening fuel (c :: acc) rest
  | fuel + 1, acc, '\\' :: letter :: rest =>
    match simpleEscape? letter with
    | none => failAt .invalidEscape ('\\' :: letter :: rest)
    | some c => readString opening fuel (c :: acc) rest
  | fuel + 1, acc, c :: rest =>
    if c.toNat < 0x20 then failAt .controlCharacter (c :: rest)
    else readString opening fuel (c :: acc) rest

/-! ## Numbers -/

/-- The digits before the point of a numeral: a zero alone, or digits that begin with another. -/
def readWhole : List Char → Option (List Char × List Char)
  | '0' :: rest => some (['0'], rest)
  | cs => if (spanDigits cs).1.isEmpty then none else some (spanDigits cs)

/-- The digits of a fraction; a point without digits after it is left unread. -/
def readFraction : List Char → Option (List Char) × List Char
  | '.' :: rest =>
    if (spanDigits rest).1.isEmpty then (none, '.' :: rest)
    else (some (spanDigits rest).1, (spanDigits rest).2)
  | cs => (none, cs)

/-- The exponent of a numeral; a mark without digits after it is left unread. -/
def readExponent : List Char → Option Int × List Char
  | c :: rest =>
    if c = 'e' ∨ c = 'E' then
      let (negative, more) := readSign rest
      let (digits, more) := spanDigits more
      if digits.isEmpty then (none, c :: rest)
      else (some (if negative then -(digitsValue digits : Int) else digitsValue digits), more)
    else (none, c :: rest)
  | [] => (none, [])

/-- Reads a numeral; an integer may have `limit` digits. -/
def readNumber (limit : Nat) (cs : List Char) : Outcome Json :=
  let (negative, unsigned) :=
    match cs with
    | '-' :: rest => (true, rest)
    | _ => (false, cs)
  match readWhole unsigned with
  | none => failAt .expectingValue cs
  | some (whole, rest) =>
    match readFraction rest with
    | (fraction, rest) =>
      match readExponent rest with
      | (exponent, rest) =>
        if fraction.isNone && exponent.isNone then
          if limit < whole.length then failAt (@Cause.longInteger limit whole.length) cs
          else
            let n : Int := digitsValue whole
            .ok (.int (if negative then -n else n), rest)
        else
          .ok (.float (.ofParts negative whole (fraction.getD []) (exponent.getD 0)), rest)

/-! ## Values -/

/-- How much a reader takes. Of the arrays and objects it takes as many inside one another as its
stack has room for, so that their number is another in other surroundings. -/
structure Limits where
  /-- The most digits that an integer may have. -/
  digits : Nat
  /-- The most arrays and objects that may stand inside one another. -/
  nesting : Nat

/-- The limits of a reader of which nothing else is known. -/
def Limits.usual : Limits where
  digits := 4300
  nesting := 990

mutual

/-- Reads a value; `levels` more arrays and objects may stand inside one another in it, and its
integers may have `limit` digits. -/
def readValue (limit : Nat) : Nat → Nat → List Char → Outcome Json
  | 0, _, cs => failAt .expectingValue cs
  | fuel + 1, levels, cs =>
    match cs with
    | '"' :: rest =>
      match readString cs fuel [] rest with
      | .error fault => .error fault
      | .ok (text, rest) => .ok (.str text, rest)
    | '\x7b' :: rest =>
      match levels, skipSpace rest with
      | 0, _ => failAt .deepObject cs
      | _ + 1, '\x7d' :: rest => .ok (.obj [], rest)
      | levels + 1, rest => readMembers limit fuel levels [] rest
    | '[' :: rest =>
      match levels, skipSpace rest with
      | 0, _ => failAt .deepArray cs
      | _ + 1, ']' :: rest => .ok (.arr [], rest)
      | levels + 1, rest => readItems limit fuel levels [] rest
    | 'n' :: 'u' :: 'l' :: 'l' :: rest => .ok (.null, rest)
    | 't' :: 'r' :: 'u' :: 'e' :: rest => .ok (.bool true, rest)
    | 'f' :: 'a' :: 'l' :: 's' :: 'e' :: rest => .ok (.bool false, rest)
    | 'N' :: 'a' :: 'N' :: rest => .ok (.float .nan, rest)
    | 'I' :: 'n' :: 'f' :: 'i' :: 'n' :: 'i' :: 't' :: 'y' :: rest =>
      .ok (.float (.infinite false), rest)
    | '-' :: 'I' :: 'n' :: 'f' :: 'i' :: 'n' :: 'i' :: 't' :: 'y' :: rest =>
      .ok (.float (.infinite true), rest)
    | cs => readNumber limit cs

/-- Reads the items of an array from the first one on; `acc` holds those read, last one first. -/
def readItems (limit : Nat) : Nat → Nat → List Json → List Char → Outcome Json
  | 0, _, _, cs => failAt .expectingValue cs
  | fuel + 1, levels, acc, cs =>
    match readValue limit fuel levels cs with
    | .error fault => .error fault
    | .ok (item, rest) =>
      match skipSpace rest with
      | ']' :: rest => .ok (.arr (item :: acc).reverse, rest)
      | ',' :: rest => readItems limit fuel levels (item :: acc) (skipSpace rest)
      | rest => failAt .expectingComma rest

/-- Reads the members of an object from the first one on; `acc` holds those read. -/
def readMembers (limit : Nat) : Nat → Nat → Members → List Char → Outcome Json
  | 0, _, _, cs => failAt .expectingKey cs
  | fuel + 1, levels, acc, cs =>
    match cs with
    | '"' :: rest =>
      match readString cs fuel [] rest with
      | .error fault => .error fault
      | .ok (key, rest) =>
        match skipSpace rest with
        | ':' :: rest =>
          match readValue limit fuel levels (skipSpace rest) with
          | .error fault => .error fault
          | .ok (value, rest) =>
            match skipSpace rest with
            | '\x7d' :: rest => .ok (.obj (acc.put key value), rest)
            | ',' :: rest => readMembers limit fuel levels (acc.put key value) (skipSpace rest)
            | rest => failAt .expectingComma rest
        | rest => failAt .expectingColon rest
    | cs => failAt .expectingKey cs

end

/-- The value that a text stands for. Space may surround it; a byte order mark may not. -/
def read (text : List Char) (limits : Limits := .usual) : Except Fault Json :=
  match text with
  | '\uFEFF' :: _ => .error ⟨.byteOrderMark, text.length⟩
  | _ =>
    match readValue limits.digits (2 * text.length + 2) limits.nesting (skipSpace text) with
    | .error fault => .error fault
    | .ok (value, rest) =>
      match skipSpace rest with
      | [] => .ok value
      | rest => .error ⟨.extraData, rest.length⟩

end AgentCanvas.Json
