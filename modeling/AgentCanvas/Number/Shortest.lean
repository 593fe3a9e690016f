import AgentCanvas.Number.Binary64

/-!
# Shortest decimal digits

The decimal numeral with the fewest digits that reads back as a given number and, among those, the
one nearest to it. For each number of digits the two neighbours of the number on that decimal grid
are tried in exact integer arithmetic; the first grid with a neighbour inside the interval of reals
that round to the number wins, and an exact tie goes to the even neighbour.

## Key definitions

- `Digits`: a decimal numeral `value * 10^exponent`.
- `shortestDigits`: the numeral chosen for `m * 2^q`.
- `Binary64.toText`: numbers as text.
-/

namespace AgentCanvas

/-- The decimal numeral `value * 10^exponent`. -/
structure Digits where
  value : Nat
  exponent : Int

namespace Digits

/-- A numeral without trailing zeros in its value; `fuel` bounds how many are taken off. -/
def stripZeros : Nat → Digits → Digits
  | 0, d => d
  | fuel + 1, d =>
    if d.value ≠ 0 ∧ d.value % 10 = 0 then stripZeros fuel ⟨d.value / 10, d.exponent + 1⟩ else d

end Digits

/-- The reals that round to a number, on the scale on which the decimal grid `10^k` and the number
are both whole: grid points are multiples of `step`, and the ends belong to the interval exactly
if `closed`. -/
structure RoundingInterval where
  step : Nat
  low : Nat
  centre : Nat
  high : Nat
  closed : Bool

namespace RoundingInterval

/-- The interval of `m * 2^q` beside the grid `10^k`. The gap below a power of two is half the gap
above it, except at the least exponent. -/
def around (m : Nat) (q k : Int) : RoundingInterval :=
  let quarter := tenPow (-k).toNat * twoPow (q - 2).toNat
  { step := tenPow k.toNat * twoPow (2 - q).toNat
    low := (4 * m - (if m = twoPow 52 ∧ -1074 < q then 1 else 2)) * quarter
    centre := 4 * m * quarter
    high := (4 * m + 2) * quarter
    closed := m % 2 == 0 }

/-- Whether the grid point number `j` lies in the interval. -/
def holds (r : RoundingInterval) (j : Nat) : Bool :=
  if r.closed then r.low ≤ j * r.step && j * r.step ≤ r.high
  else r.low < j * r.step && j * r.step < r.high

/-- The grid point in the interval that is nearest to its number, if there is one. -/
def nearest? (r : RoundingInterval) : Option Nat :=
  let below := r.centre / r.step
  let above := below + 1
  match r.holds below, r.holds above with
  | true, true =>
    let down := r.centre - below * r.step
    let up := above * r.step - r.centre
    if down < up ∨ (down = up ∧ below % 2 = 0) then some below else some above
  | true, false => some below
  | false, true => some above
  | false, false => none

end RoundingInterval

/-- The greatest `e` with `10^e ≤ m * 2^q`, for positive `m`. -/
def decimalExponent (m : Nat) (q : Int) : Int :=
  let reaches (e : Int) : Bool :=
    tenPow e.toNat * twoPow (-q).toNat ≤ m * twoPow q.toNat * tenPow (-e).toNat
  let estimate := Int.fdiv (((m.log2 : Int) + q) * 30103) 100000
  if !reaches estimate then estimate - 1
  else if reaches (estimate + 1) then estimate + 1
  else estimate

/-- Tries grids with more and more digits: the grid exponent falls from `k` with the fuel, and the
grid at which the fuel ends is taken as it is. -/
def shortestFrom (m : Nat) (q : Int) : Nat → Int → Digits
  | 0, k => let r := RoundingInterval.around m q k; ⟨r.centre / r.step, k⟩
  | fuel + 1, k =>
    match (RoundingInterval.around m q k).nearest? with
    | some j => ⟨j, k⟩
    | none => shortestFrom m q fuel (k - 1)

/-- The shortest numeral that reads back as `m * 2^q`, for positive `m`; seventeen digits always
suffice. -/
def shortestDigits (m : Nat) (q : Int) : Digits :=
  (shortestFrom m q 17 (decimalExponent m q)).stripZeros 17

/-- Digits are written positionally from the fourth place after the point up to the sixteenth
before it, and with an exponent otherwise. -/
def isPositional (scientific : Int) : Bool :=
  -4 ≤ scientific && scientific < 16

/-- Digits in positional notation, the point standing after the first `point` of them; a whole
number ends in `.0`. -/
def positionalText (digits : List Char) (point : Int) : List Char :=
  if point ≤ 0 then '0' :: '.' :: (List.replicate (-point).toNat '0' ++ digits)
  else if digits.length ≤ point.toNat then
    digits ++ List.replicate (point.toNat - digits.length) '0' ++ ['.', '0']
  else digits.take point.toNat ++ '.' :: digits.drop point.toNat

/-- Digits in scientific notation: one before the point, and an exponent with its sign and at
least two digits. -/
def scientificText (digits : List Char) (scientific : Int) : List Char :=
  let exponent := Nat.toDigits 10 scientific.natAbs
  digits.take 1 ++ (if digits.length ≤ 1 then [] else '.' :: digits.drop 1) ++
    'e' :: (if scientific < 0 then '-' else '+') ::
    (if exponent.length < 2 then '0' :: exponent else exponent)

/-- A numeral as text. -/
def Digits.text (d : Digits) : List Char :=
  let digits := Nat.toDigits 10 d.value
  let scientific := d.exponent + digits.length - 1
  if isPositional scientific then positionalText digits (scientific + 1)
  else scientificText digits scientific

/-- A number as text: `nan`, `inf` or its shortest digits, a minus in front of negative ones. -/
def Binary64.toText : Binary64 → String
  | .nan => "nan"
  | .infinite negative => if negative then "-inf" else "inf"
  | .finite negative m q =>
    String.ofList ((if negative then ['-'] else []) ++
      (if m = 0 then ['0', '.', '0'] else (shortestDigits m q).text))

end AgentCanvas
