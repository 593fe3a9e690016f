/-!
# Binary floating-point numbers

The 64-bit binary format as plain data: a number is its sign, an integer significand below `2^53`
and a power of two. Values arise by rounding an exact ratio to the nearest number, a tie going to
the even significand, so every operation here is exact integer arithmetic.

## Key definitions

- `Binary64.ofRatio`: the number nearest to a ratio.
- `Binary64.ofDecimal`: the number nearest to a decimal numeral.
- `Binary64.ofInt?`: the number nearest to an integer, if it is within range.
- `Binary64.toInt?`: the integer that a number is.
-/

namespace AgentCanvas

/-- A power of two. -/
def twoPow (exponent : Nat) : Nat :=
  Nat.pow 2 exponent

/-- A power of ten. -/
def tenPow (exponent : Nat) : Nat :=
  Nat.pow 10 exponent

/-- A number of the 64-bit binary format. `finite negative m q` stands for `m * 2^q`, negated if
`negative`; results of rounding have `m < 2^53` and `-1074 ≤ q`, and `2^52 ≤ m` unless
`q = -1074`. -/
inductive Binary64 where
  | nan
  | infinite (negative : Bool)
  | finite (negative : Bool) (significand : Nat) (exponent : Int)
  deriving DecidableEq

namespace Binary64

/-- Zero with the given sign. -/
def signedZero (negative : Bool) : Binary64 :=
  .finite negative 0 (-1074)

/-- Zero. -/
def zero : Binary64 :=
  signedZero false

/-- One. -/
def one : Binary64 :=
  .finite false (twoPow 52) (-52)

/-- Whether a number is neither infinite nor NaN. -/
def isFinite : Binary64 → Bool
  | .finite .. => true
  | _ => false

/-- The integer nearest to `num / den`, a tie going to the even one. -/
def roundHalfEven (num den : Nat) : Nat :=
  let quotient := num / den
  let twice := 2 * (num % den)
  if twice < den then quotient
  else if den < twice then quotient + 1
  else quotient + quotient % 2

/-- The ratio `num / den` divided by `2^q`, as a ratio. -/
def scaleDown (num den : Nat) (q : Int) : Nat × Nat :=
  (num * twoPow (-q).toNat, den * twoPow q.toNat)

/-- The exponent of the leading bit of a positive ratio: the greatest `e` with
`2^e ≤ num / den`. -/
def leadingExponent (num den : Nat) : Int :=
  let estimate : Int := (num.log2 : Int) - (den.log2 : Int)
  let scaled := scaleDown num den estimate
  if scaled.2 ≤ scaled.1 then estimate else estimate - 1

/-- The number with the significand `m` at the exponent `q`, where rounding may have carried `m`
up to `2^53`; beyond the greatest finite number it is infinite. -/
def assemble (negative : Bool) (m : Nat) (q : Int) : Binary64 :=
  let (m, q) := if m = twoPow 53 then (twoPow 52, q + 1) else (m, q)
  if 971 < q then .infinite negative else .finite negative m q

/-- The number nearest to `num / den`. -/
def ofRatio (negative : Bool) (num den : Nat) : Binary64 :=
  if num = 0 then signedZero negative
  else
    let q := max (leadingExponent num den - 52) (-1074)
    let scaled := scaleDown num den q
    assemble negative (roundHalfEven scaled.1 scaled.2) q

/-- The number nearest to `digits * 10^exponent`. Numerals far outside the range are settled
before any power is formed. -/
def ofDecimal (negative : Bool) (digits : Nat) (exponent : Int) : Binary64 :=
  if digits = 0 then signedZero negative
  else if 400 < exponent then .infinite negative
  else if (digits.log2 : Int) + 1 + 3 * exponent < -1100 then signedZero negative
  else ofRatio negative (digits * tenPow exponent.toNat) (tenPow (-exponent).toNat)

/-- The number nearest to an integer, unless that is beyond the greatest finite number. -/
def ofInt? (n : Int) : Option Binary64 :=
  match ofRatio (n < 0) n.natAbs 1 with
  | .infinite _ => none
  | x => some x

/-- The integer that a number is, if it is one. -/
def toInt? : Binary64 → Option Int
  | .finite negative significand exponent =>
    let (num, den) := scaleDown significand 1 (-exponent)
    let magnitude := num / den
    if num % den ≠ 0 then none else some (if negative then -(magnitude : Int) else magnitude)
  | _ => none

end Binary64

end AgentCanvas
