/-!
# Binary floating-point numbers with 53 significant bits

`Binary64` : the numbers of the 64-bit binary format, by their fields, with one not-a-number.
* `toRat?` : the exact value of a finite number;
* `ofRat` : the nearest number to a rational, a half going to the even neighbour, and an infinity
  from the overflow threshold on; every operation is exact arithmetic followed by `ofRat`;
* `mul`, `sub`, `div`, `abs`, `lt` : arithmetic and order;
* `roundEven`, `floor`, `ceil` : integers near a rational.
-/

namespace ImageWorkflow

/-- The number of fraction fields. -/
abbrev fractionCount : Nat := 4503599627370496

/-- A 64-bit binary floating-point number: `finite s e f` has magnitude `(2⁵² + f) · 2 ^ (e -
1075)`, and `f · 2 ^ -1074` when `e` is zero. -/
inductive Binary64 where
  | nan
  | infinity (negative : Bool)
  | finite (negative : Bool) (exponent : Fin 2047) (fraction : Fin fractionCount)
  deriving DecidableEq, Repr

/-- `num / den` to the nearest integer, a half to the even one. -/
def divHalfEven (num den : Nat) : Nat :=
  let quotient := num / den
  let twice := 2 * (num % den)
  if twice < den then quotient
  else if twice > den then quotient + 1
  else quotient + quotient % 2

/-- The nearest integer, a half going to the even one. -/
def roundEven (q : Rat) : Int :=
  let magnitude : Int := divHalfEven q.num.natAbs q.den
  if q.num < 0 then -magnitude else magnitude

/-- `2 ^ k` for an integer `k`. -/
def twoPow (k : Int) : Rat :=
  if 0 ≤ k then (Nat.pow 2 k.toNat : Rat) else 1 / (Nat.pow 2 (-k).toNat : Rat)

namespace Binary64

/-- The zero with a sign. -/
def signedZero (negative : Bool) : Binary64 := finite negative 0 0

/-- Positive zero. -/
def zero : Binary64 := signedZero false

/-- The number with the given place in the order of the non-negative finite numbers, or an infinity
past the last. -/
def ofRank (negative : Bool) (rank : Nat) : Binary64 :=
  if h : rank / fractionCount < 2047 then
    finite negative ⟨rank / fractionCount, h⟩ ⟨rank % fractionCount, Nat.mod_lt _ (by decide)⟩
  else infinity negative

/-- The exponent `k` with `2 ^ k ≤ num / den < 2 ^ (k + 1)`, for positive `num` and `den`. -/
def floorLog2 (num den : Nat) : Int :=
  let k : Int := (num.log2 : Int) - den.log2
  let reached := if 0 ≤ k then den * Nat.pow 2 k.toNat ≤ num else den ≤ num * Nat.pow 2 (-k).toNat
  if reached then k else k - 1

/-- The number nearest to `± num / den`, a half going to the even neighbour. -/
def ofRatio (negative : Bool) (num den : Nat) : Binary64 :=
  if num = 0 then signedZero negative
  else
    let unit : Int := max (-1074) (floorLog2 num den - 52)
    let steps :=
      if 0 ≤ unit then divHalfEven num (den * Nat.pow 2 unit.toNat)
      else divHalfEven (num * Nat.pow 2 (-unit).toNat) den
    ofRank negative ((unit + 1074).toNat * fractionCount + steps)

/-- The number nearest to `q`; zero gets the sign `negativeZero`. -/
def ofRat (q : Rat) (negativeZero : Bool := false) : Binary64 :=
  ofRatio (if q.num = 0 then negativeZero else q.num < 0) q.num.natAbs q.den

/-- The integer significand of a finite number. -/
def significand (exponent : Fin 2047) (fraction : Fin fractionCount) : Nat :=
  if exponent.val = 0 then fraction.val else fractionCount + fraction.val

/-- The power of two that a finite number's significand counts. -/
def scale (exponent : Fin 2047) : Int := max exponent.val 1 - 1075

/-- The exact value of a finite number. -/
def toRat? : Binary64 → Option Rat
  | finite negative exponent fraction =>
    let magnitude := (significand exponent fraction : Rat) * twoPow (scale exponent)
    some (if negative then -magnitude else magnitude)
  | _ => none

/-- Whether the number is neither infinite nor not-a-number. -/
def isFinite : Binary64 → Bool
  | finite .. => true
  | _ => false

/-- The sign bit. -/
def isNegative : Binary64 → Bool
  | nan => false
  | infinity negative => negative
  | finite negative _ _ => negative

/-- The number nearest to an integer; `none` when it lies past the largest finite number. -/
def ofInt? (n : Int) : Option Binary64 :=
  let x := ofRat n
  if x.isFinite then some x else none

/-- The integer that a finite number equals, if it is integral. -/
def toInt? (x : Binary64) : Option Int :=
  x.toRat?.bind fun q => if q.den = 1 then some q.num else none

/-- Whether the number equals zero. -/
def isZero : Binary64 → Bool
  | finite _ exponent fraction => exponent.val = 0 && fraction.val = 0
  | _ => false

/-- The opposite number. -/
def neg : Binary64 → Binary64
  | nan => nan
  | infinity negative => infinity !negative
  | finite negative exponent fraction => finite (!negative) exponent fraction

/-- The magnitude. -/
def abs : Binary64 → Binary64
  | nan => nan
  | infinity _ => infinity false
  | finite _ exponent fraction => finite false exponent fraction

/-- The product. -/
def mul (x y : Binary64) : Binary64 :=
  let negative := x.isNegative != y.isNegative
  match x.toRat?, y.toRat? with
  | some p, some q => ofRat (p * q) negative
  | _, _ =>
    if x = nan ∨ y = nan ∨ x.isZero ∨ y.isZero then nan else infinity negative

/-- The difference of two finite numbers; not-a-number when one of them is not finite. -/
def sub (x y : Binary64) : Binary64 :=
  match x.toRat?, y.toRat? with
  | some p, some q => ofRat (p - q) (x.isNegative && !y.isNegative && x.isZero)
  | _, _ => nan

/-- The quotient of two finite numbers, the second not zero; not-a-number otherwise. -/
def div (x y : Binary64) : Binary64 :=
  match x.toRat?, y.toRat? with
  | some p, some q => if q = 0 then nan else ofRat (p / q) (x.isNegative != y.isNegative)
  | _, _ => nan

/-- The order of values: both zeros are equal, and not-a-number compares with nothing. -/
def lt : Binary64 → Binary64 → Bool
  | nan, _ | _, nan => false
  | infinity m, infinity n => m && !n
  | infinity m, finite .. => m
  | finite .., infinity n => !n
  | x, y => match x.toRat?, y.toRat? with
    | some p, some q => p < q
    | _, _ => false

/-- Less or equal in value. -/
def le (x y : Binary64) : Bool := x.lt y || (x == y && x != nan) || (x.isZero && y.isZero)

/-- Equality of values: both zeros are equal; a not-a-number is the one value that it equals. -/
def sameValue (x y : Binary64) : Bool := x == y || (x.isZero && y.isZero)

end Binary64

end ImageWorkflow
