import AgentCanvas.Json.Basic
import AgentCanvas.Text.Blank
import AgentCanvas.Text.Lines

/-!
# Environment files

Files of variable assignments, one to a line: a key, `=` and a value, perhaps with `export` in
front and a comment behind. Keys may be quoted; a quoted value may span lines and hold escapes, an
unquoted one ends with its line. A key without `=` has no value. A line that is no assignment is
left out. In values a variable in braces after a dollar sign stands for its value.

## Key definitions

- `EnvFile.parse`: the assignments of a text.
- `EnvFile.values`: the variables that they define, references resolved.
-/

namespace AgentCanvas.EnvFile

open Text (isBlank)

/-- An assignment to a key, perhaps without a value. -/
abbrev Assignment : Type :=
  String × Option String

/-- Leaves out the space at the front, but no line break. -/
def skipInline (cs : List Char) : List Char :=
  cs.dropWhile fun c => isBlank c && c != '\n'

/-- What follows the next line break. -/
def skipLine (cs : List Char) : List Char :=
  (cs.dropWhile (· != '\n')).drop 1

/-! ## Keys -/

/-- Leaves out the word `export` where space follows it. -/
def skipExport (cs : List Char) : List Char :=
  match cs with
  | 'e' :: 'x' :: 'p' :: 'o' :: 'r' :: 't' :: c :: rest =>
    if isBlank c && c != '\n' then skipInline rest else cs
  | _ => cs

/-- Reads a key. A comment stands for an assignment without key. -/
def readKey (cs : List Char) : Option (Option String × List Char) :=
  match cs with
  | '#' :: _ => some (none, cs)
  | '\'' :: rest =>
    match rest.takeWhile (· != '\''), rest.dropWhile (· != '\'') with
    | c :: key, _ :: rest => some (some (String.ofList (c :: key)), rest)
    | _, _ => none
  | _ =>
    let isKeyChar (c : Char) : Bool := c != '=' && c != '#' && !isBlank c
    match cs.takeWhile isKeyChar with
    | [] => none
    | key => some (some (String.ofList key), cs.dropWhile isKeyChar)

/-! ## Values -/

/-- Splits what follows an opening quote at the closing one. A quote behind a backslash closes
nothing as long as another quote does. -/
def splitQuoted (mark : Char) : List Char → Option (List Char × List Char)
  | [] => none
  | '\\' :: c :: rest =>
    if c = mark then
      match splitQuoted mark rest with
      | some (value, rest) => some ('\\' :: c :: value, rest)
      | none => some (['\\'], rest)
    else (splitQuoted mark (c :: rest)).map fun (value, rest) => ('\\' :: value, rest)
  | c :: rest =>
    if c = mark then some ([], rest)
    else (splitQuoted mark rest).map fun (value, rest) => (c :: value, rest)

/-- The escapes of values in single quotes. -/
def singleQuoteEscapes : List (Char × Char) :=
  [('\\', '\\'), ('\'', '\'')]

/-- The escapes of values in double quotes. -/
def doubleQuoteEscapes : List (Char × Char) :=
  [('\\', '\\'), ('\'', '\''), ('"', '"'), ('a', '\x07'), ('b', '\x08'), ('f', '\x0c'),
    ('n', '\n'), ('r', '\r'), ('t', '\t'), ('v', '\x0b')]

/-- Replaces the escapes of a value; a backslash before any other character stays. -/
def replaceEscapes (escapes : List (Char × Char)) : List Char → List Char
  | '\\' :: c :: rest =>
    match escapes.lookup c with
    | some replaced => replaced :: replaceEscapes escapes rest
    | none => '\\' :: replaceEscapes escapes (c :: rest)
  | c :: rest => c :: replaceEscapes escapes rest
  | [] => []

/-- The part of an unquoted value in front of its comment, which begins with space and a number
sign. -/
def beforeComment : List Char → List Char
  | [] => []
  | c :: rest =>
    if isBlank c && (rest.dropWhile isBlank).head? == some '#' then []
    else c :: beforeComment rest

/-- Reads a value. -/
def readValue (cs : List Char) : Option (String × List Char) :=
  match cs with
  | '\'' :: rest =>
    (splitQuoted '\'' rest).map fun (value, rest) =>
      (String.ofList (replaceEscapes singleQuoteEscapes value), rest)
  | '"' :: rest =>
    (splitQuoted '"' rest).map fun (value, rest) =>
      (String.ofList (replaceEscapes doubleQuoteEscapes value), rest)
  | _ =>
    let line := cs.takeWhile (· != '\n')
    some (String.ofList (Text.dropEndWhile isBlank (beforeComment line)),
      cs.dropWhile (· != '\n'))

/-! ## Lines -/

/-- Leaves out a comment, with the space before it, if there is one. -/
def skipComment (cs : List Char) : List Char :=
  match skipInline cs with
  | '#' :: rest => rest.dropWhile (· != '\n')
  | _ => cs

/-- Reads the end of a line. -/
def readLineEnd (cs : List Char) : Option (List Char) :=
  match skipInline cs with
  | [] => some []
  | '\n' :: rest => some rest
  | _ => none

/-- Reads the value of an assignment behind its key, if it has one. -/
def readAssigned (cs : List Char) : Option (Option String × List Char) :=
  match skipInline cs with
  | '=' :: rest => (readValue (skipInline rest)).map fun (value, rest) => (some value, rest)
  | rest => some (none, rest)

/-- What a line holds: the assignment, if it is one, and what follows the line. Of a line that
cannot be read, what follows is counted from the place that cannot be read. -/
def readLine (cs : List Char) : Option Assignment × List Char :=
  let cs := skipExport cs
  match readKey cs with
  | none => (none, skipLine cs)
  | some (key, rest) =>
    let afterKey := skipInline rest
    match readAssigned afterKey with
    | none => (none, skipLine (skipInline (afterKey.drop 1)))
    | some (value, rest) =>
      let rest := skipComment rest
      match readLineEnd rest with
      | none => (none, skipLine rest)
      | some rest => (key.map fun name => (name, value), rest)

/-- Reads lines; every line takes at least one character, so fuel for as many lines as there are
characters suffices. -/
def readLines : Nat → List Char → List Assignment
  | 0, _ => []
  | fuel + 1, cs =>
    match cs.dropWhile isBlank with
    | [] => []
    | rest =>
      match readLine rest with
      | (some assignment, more) => assignment :: readLines fuel more
      | (none, more) => readLines fuel more

/-- The assignments of a text, in order. -/
def parse (text : String) : List Assignment :=
  let cs := Text.normalizeNewlines text.toList
  readLines cs.length cs

/-! ## References -/

/-- Reads a reference behind its dollar sign and opening brace: a name and perhaps, behind `:-`, a
text for a name without value. -/
def readReference (cs : List Char) : Option (String × String × List Char) :=
  let isNameChar (c : Char) : Bool := c != '\x7d' && c != ':'
  let name := String.ofList (cs.takeWhile isNameChar)
  match cs.dropWhile isNameChar with
  | '\x7d' :: rest => some (name, "", rest)
  | ':' :: '-' :: rest =>
    match rest.dropWhile (· != '\x7d') with
    | _ :: more => some (name, String.ofList (rest.takeWhile (· != '\x7d')), more)
    | [] => none
  | _ => none

/-- Replaces the references in a value; `known` tells the values of variables, and a variable that
is known to have no value counts as empty. Fuel for every character suffices. -/
def resolve (known : String → Option (Option String)) : Nat → List Char → List Char
  | 0, cs => cs
  | _, [] => []
  | fuel + 1, '$' :: '\x7b' :: rest =>
    match readReference rest with
    | some (name, fallback, more) =>
      (match known name with
        | some value => value.getD ""
        | none => fallback).toList ++ resolve known fuel more
    | none => '$' :: resolve known fuel ('\x7b' :: rest)
  | fuel + 1, c :: rest => c :: resolve known fuel rest

/-- What is known of a variable: what the file has defined so far counts before the
environment. -/
def lookUp (environment : Entries String) (defined : Entries (Option String)) (name : String) :
    Option (Option String) :=
  match defined.get? name with
  | some value => some value
  | none => (environment.get? name).map some

/-- Defines the variable of an assignment after those of `defined`. -/
def define (environment : Entries String) (defined : Entries (Option String))
    (assignment : Assignment) : Entries (Option String) :=
  let value := assignment.2.map fun text =>
    String.ofList (resolve (lookUp environment defined) text.toList.length text.toList)
  defined.put assignment.1 value

/-- The variables that a text defines. The last value of a key counts, in the place of the
first. -/
def values (environment : Entries String) (text : String) : Entries (Option String) :=
  (parse text).foldl (define environment) []

end AgentCanvas.EnvFile
