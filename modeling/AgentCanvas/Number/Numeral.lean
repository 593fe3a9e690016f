import AgentCanvas.Number.Binary64
import AgentCanvas.Text.Blank

/-!
# Decimal numerals

Texts that stand for numbers. A numeral has a sign, digits before and after a point, and an
exponent; a single underscore may stand between two digits. Infinity and NaN have names, in any
case. White space around a numeral is not part of it.

An underscore beside a point or an exponent, as in `1_.5`, makes a text no numeral here, while some
readers drop it like those between digits.

## Key definitions

- `digitsValue`, `Binary64.ofParts`: the number that the parts of a numeral stand for.
- `Binary64.parse?`: the number that a text stands for.
-/

namespace AgentCanvas

/-- The integer that a string of decimal digits stands for. -/
def digitsValue (digits : List Char) : Nat :=
  digits.foldl (fun value c => 10 * value + (c.toNat - '0'.toNat)) 0

/-- The digits at the front of a text, and what follows them. -/
def spanDigits (cs : List Char) : List Char × List Char :=
  (cs.takeWhile Char.isDigit, cs.dropWhile Char.isDigit)

/-- An optional minus or plus at the front of a text, as whether it is a minus. -/
def readSign : List Char → Bool × List Char
  | '-' :: rest => (true, rest)
  | '+' :: rest => (false, rest)
  | rest => (false, rest)

namespace Binary64

/-- The number nearest to the numeral `whole.fraction` times ten to the exponent. -/
def ofParts (negative : Bool) (whole fraction : List Char) (exponent : Int) : Binary64 :=
  ofDecimal negative (digitsValue (whole ++ fraction)) (exponent - fraction.length)

/-- Takes out the underscores of a numeral; each has to stand between two digits. -/
def dropSeparators : List Char → Option (List Char)
  | [] => some []
  | '_' :: _ => none
  | c :: '_' :: d :: rest =>
    if c.isDigit && d.isDigit then (dropSeparators (d :: rest)).map (c :: ·) else none
  | c :: rest => (dropSeparators rest).map (c :: ·)

/-- The exponent part that ends a numeral; none at all is the exponent zero. -/
def readExponent : List Char → Option Int
  | [] => some 0
  | c :: rest =>
    if c = 'e' ∨ c = 'E' then
      let (negative, digits) := readSign rest
      if digits.isEmpty || !digits.all Char.isDigit then none
      else some (if negative then -(digitsValue digits : Int) else digitsValue digits)
    else none

/-- The number that an unsigned numeral of digits stands for: at least one digit, with or without a
point among them, and perhaps an exponent. -/
def readUnsigned (negative : Bool) (cs : List Char) : Option Binary64 :=
  let (whole, rest) := spanDigits cs
  let (fraction, rest) :=
    match rest with
    | '.' :: more => spanDigits more
    | _ => ([], rest)
  if whole.isEmpty && fraction.isEmpty then none
  else (readExponent rest).map (ofParts negative whole fraction)

/-- The number that a named value stands for. -/
def readNamed (negative : Bool) (cs : List Char) : Option Binary64 :=
  let name := String.ofList (cs.map Char.toLower)
  if name = "nan" then some .nan
  else if name = "inf" ∨ name = "infinity" then some (.infinite negative)
  else none

/-- The number that a text stands for, if it is a numeral or a named value. -/
def parse? (s : String) : Option Binary64 :=
  let (negative, body) := readSign (Text.trimWhile Text.isWhiteSpace s.toList)
  match readNamed negative body with
  | some x => some x
  | none => (dropSeparators body).bind (readUnsigned negative)

end Binary64

end AgentCanvas
