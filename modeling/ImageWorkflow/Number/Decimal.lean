import ImageWorkflow.Number.Binary64

/-!
# Decimals and the binary numbers nearest to them

`Decimal` : a non-negative decimal `digits · 10 ^ power`.  `Binary64.ofDecimal` reads one: the
nearest binary number, with the exact value of the decimal as the only intermediate.  Decimals
beyond every finite number or below every positive one are settled by their size alone, so an
exponent of any length costs nothing.
-/

namespace ImageWorkflow

/-- `10 ^ k` for an integer `k`. -/
def tenPow (k : Int) : Rat :=
  if 0 ≤ k then (Nat.pow 10 k.toNat : Rat) else 1 / (Nat.pow 10 (-k).toNat : Rat)

/-- A non-negative decimal `digits · 10 ^ power`. -/
structure Decimal where
  digits : Nat
  power : Int
  deriving DecidableEq, Repr

/-- The value of a decimal. -/
def Decimal.toRat (d : Decimal) : Rat := (d.digits : Rat) * tenPow d.power

/-- The number of decimal digits of `n`; zero has none. -/
def digitCount (n : Nat) : Nat := if n = 0 then 0 else (Nat.toDigits 10 n).length

/-- The binary number nearest to a decimal with the given sign. -/
def Binary64.ofDecimal (negative : Bool) (d : Decimal) : Binary64 :=
  let place := d.power + digitCount d.digits
  if d.digits = 0 ∨ place < -330 then .signedZero negative
  else if place > 320 then .infinity negative
  else ofRatio negative d.toRat.num.natAbs d.toRat.den

end ImageWorkflow
