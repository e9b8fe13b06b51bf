import ImageWorkflow.Number.Decimal

/-!
# Shortest decimal text of a binary floating-point number

`shortestDecimal q x` : the decimal with the fewest digits that reads back as `x`, of value `q`;
of several, the nearest to `q`.  `Binary64.text` writes it: positional from `10⁻⁴` up to `10¹⁶`,
always with a point, and in scientific notation with at least two exponent digits elsewhere.
-/

namespace ImageWorkflow

namespace Decimal

/-- The least power `p` of ten with `q < 10 ^ p`, searched upward from `p`. -/
def magnitudeFrom (q : Rat) : (fuel : Nat) → (p : Int) → Int
  | 0, p => p
  | fuel + 1, p => if q < tenPow p then p else magnitudeFrom q fuel (p + 1)

/-- The power `p` of ten with `10 ^ (p - 1) ≤ q < 10 ^ p`, for a positive finite number's value. -/
def magnitude (q : Rat) : Int :=
  let estimate : Int := (((q.num.natAbs.log2 : Int) - q.den.log2 - 1) * 30103).fdiv 100000
  magnitudeFrom q 4 estimate

/-- The neighbours of `q` among the decimals with `count` digits that read back as `x`, the nearer
first; at equal distance the even one comes first. -/
def candidates (q : Rat) (x : Binary64) (count : Nat) : List Decimal :=
  let power := magnitude q - count
  let steps := q / tenPow power
  let below := steps.floor.toNat
  let near := (roundEven steps).toNat
  let far := if near = below then below + 1 else below
  ([near, far].map fun digits => { digits, power : Decimal }).filter fun d =>
    Binary64.ofRat d.toRat = x

/-- The decimal with the fewest digits, `17` at most, that reads back as `x`. -/
def shortest (q : Rat) (x : Binary64) : Decimal :=
  match (List.range 17).findSome? fun k => (candidates q x (k + 1)).head? with
  | some d => d
  | none => ⟨0, 0⟩

/-- The digits without trailing zeros, and the place of the point: the value is
`0.d₁d₂… · 10 ^ point`. -/
def normalForm (d : Decimal) : List Char × Int :=
  let all := Nat.toDigits 10 d.digits
  let significant := (all.reverse.dropWhile (· = '0')).reverse
  (significant, d.power + all.length)

end Decimal

namespace Binary64

/-- Positional or scientific notation of `0.d₁d₂… · 10 ^ point`. -/
def notate (digits : List Char) (point : Int) : String :=
  if -4 < point ∧ point ≤ 16 then
    if point ≤ 0 then
      "0." ++ String.ofList (List.replicate (-point).toNat '0' ++ digits)
    else
      let whole := point.toNat
      let padded := digits ++ List.replicate (whole - digits.length) '0'
      let fraction := padded.drop whole
      String.ofList (padded.take whole) ++ "." ++
        (if fraction.isEmpty then "0" else String.ofList fraction)
  else
    let exponent := point - 1
    let mantissa := match digits with
      | [] => "0"
      | [d] => d.toString
      | d :: rest => d.toString ++ "." ++ String.ofList rest
    let size := Nat.toDigits 10 exponent.natAbs
    mantissa ++ (if exponent < 0 then "e-" else "e+") ++
      String.ofList (List.replicate (2 - size.length) '0' ++ size)

/-- The shortest text that reads back as the number. -/
def text : Binary64 → String
  | nan => "nan"
  | infinity negative => if negative then "-inf" else "inf"
  | finite negative exponent fraction =>
    let magnitude := finite false exponent fraction
    let body :=
      match magnitude.toRat? with
      | none => "0.0"
      | some q =>
        if q = 0 then "0.0"
        else
          let (digits, point) := (Decimal.shortest q magnitude).normalForm
          notate digits point
    if negative then "-" ++ body else body

end Binary64

end ImageWorkflow
