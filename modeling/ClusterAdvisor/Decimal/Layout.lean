import ClusterAdvisor.Decimal.Shortest

/-!
Decimals laid out as text: near one with a point, far from one with an exponent.
-/

namespace ClusterAdvisor.Decimal

/-- How decimals are written: the exponents for which the point is written in its place, and the
marks of a positive and a negative exponent. -/
structure Layout where
  leastPlain : Int
  greatestPlain : Int
  positiveMark : String
  negativeMark : String

namespace Layout

def digitText (digits : List Nat) : String :=
  String.ofList (digits.map Nat.digitChar)

/-- Digits with the point in its place; there is a digit on both sides of the point. -/
def plain (d : Digits) : String :=
  if d.point ≤ 0 then
    "0." ++ digitText (List.replicate (-d.point).toNat 0 ++ d.digits)
  else
    let places := d.point.toNat
    let whole := d.digits.take places
    let fraction := d.digits.drop places
    digitText (whole ++ List.replicate (places - whole.length) 0) ++ "." ++
      digitText (if fraction.isEmpty then [0] else fraction)

/-- One digit, the others after a point, and the exponent. -/
def scientific (layout : Layout) (d : Digits) : String :=
  let exponent := d.point - 1
  let mantissa :=
    match d.digits with
    | first :: more@(_ :: _) => digitText [first] ++ "." ++ digitText more
    | digits => digitText digits
  let mark := if 0 ≤ exponent then layout.positiveMark else layout.negativeMark
  mantissa ++ mark ++ toString exponent.natAbs

/-- The shortest decimal of a binary number as text. -/
def render (layout : Layout) (x : Binary64) : String :=
  let d := x.shortest
  let magnitude :=
    if d.digits.isEmpty then "0.0"
    else if layout.leastPlain ≤ d.point - 1 ∧ d.point - 1 ≤ layout.greatestPlain then plain d
    else layout.scientific d
  if x.negative then "-" ++ magnitude else magnitude

end Layout

end ClusterAdvisor.Decimal
