import AgentCanvas.Json.Basic
import AgentCanvas.Number.Numeral
import AgentCanvas.Schema.Checked

/-!
# Fields of records

How the fields of a record are read from the members of an object. Members that no field asks for
are ignored. Numbers and flags may also be given as text; texts may not be given as anything else.

## Key definitions

- `Checked.text`, `Checked.number`, `Checked.flag`, `Checked.list`, `Checked.choice`: values of one
  type.
- `Checked.record`: an object whose members are the fields.
- `Checked.required`, `Checked.optional`: a field of it.
-/

namespace AgentCanvas.Checked

variable {α : Type}

/-! ## Values -/

/-- A text. -/
def text : Json → Checked String
  | .str s => valid s
  | _ => refuse .notText

/-- A number, also given as a flag or as a numeral. An integer is rounded to the nearest number
and refused if it is beyond the greatest one. -/
def number : Json → Checked Binary64
  | .float x => valid x
  | .int n =>
    match Binary64.ofInt? n with
    | some x => valid x
    | none => refuse .notNumber
  | .bool b => valid (if b then .one else .zero)
  | .str s =>
    match Binary64.parse? s with
    | some x => valid x
    | none => refuse .unreadableNumber
  | _ => refuse .notNumber

/-- The words that stand for a false and for a true flag. -/
def flagWords : List String × List String :=
  (["0", "off", "f", "false", "n", "no"], ["1", "on", "t", "true", "y", "yes"])

/-- A flag given as a word, in any case of its ASCII letters. -/
def flagOfWord (s : String) : Checked Bool :=
  let word := String.ofList (s.toList.map Char.toLower)
  if flagWords.1.contains word then valid false
  else if flagWords.2.contains word then valid true
  else refuse .unreadableFlag

/-- A flag given as one of the integers zero and one. -/
def flagOfInt (n : Int) : Checked Bool :=
  if n = 0 then valid false
  else if n = 1 then valid true
  else refuse .unreadableFlag

/-- A flag, also given as a word or as one of the numbers zero and one. Other integers are no flags
as long as they fit 64 bits, and of another type beyond, like all numbers that are no integers. -/
def flag : Json → Checked Bool
  | .bool b => valid b
  | .str s => flagOfWord s
  | .int n =>
    if -0x8000000000000000 ≤ n ∧ n ≤ 0x7FFFFFFFFFFFFFFF then flagOfInt n else refuse .notFlag
  | .float x =>
    match x.toInt? with
    | some n =>
      if -0x8000000000000000 < n ∧ n ≤ 0x7FFFFFFFFFFFFFFF then flagOfInt n else refuse .notFlag
    | none => refuse .notFlag
  | _ => refuse .notFlag

/-- A list of values of one type. -/
def list (item : Json → Checked α) : Json → Checked (List α)
  | .arr items => each item items
  | _ => refuse .notList

/-- An object, kept as it is. -/
def object : Json → Checked Json
  | .obj members => valid (.obj members)
  | _ => refuse .notObject

/-- One of several named values; `reason` is given the names. -/
def choice (reason : List String → Reason) (choices : List (String × α)) : Json → Checked α
  | .str s =>
    match choices.lookup s with
    | some value => valid value
    | none => refuse (reason (choices.map Prod.fst))
  | _ => refuse (reason (choices.map Prod.fst))

/-! ## Records -/

/-- An object whose members are the fields of a record. -/
def record (shape : Shape) (fields : Members → Checked α) : Json → Checked α
  | .obj members => fields members
  | _ => refuse (.notRecord shape)

/-- A field that has to be there. -/
def required (members : Members) (key : String) (check : Json → Checked α) : Checked α :=
  match members.get? key with
  | some value => (check value).under (.key key)
  | none => invalid [⟨[.key key], .missing⟩]

/-- A field that has a default. -/
def optional (members : Members) (key : String) (default : α) (check : Json → Checked α) :
    Checked α :=
  match members.get? key with
  | some value => (check value).under (.key key)
  | none => valid default

/-- A field with a default and a second key, which counts where the first one is absent. -/
def optionalEither (members : Members) (key other : String) (default : α)
    (check : Json → Checked α) : Checked α :=
  match members.get? key with
  | some value => (check value).under (.key key)
  | none => optional members other default check

end AgentCanvas.Checked
