/-!
Finite numbers of the 64-bit binary format, with exact arithmetic: every operation computes the
exact quotient and rounds it once, to the nearest representable value and on a tie to the even one.
-/

namespace ClusterAdvisor.Decimal

/-- The value `± significand * 2 ^ exponent`. Values made by rounding have a significand below
`2 ^ 53`, an exponent of at least `-1074`, and a significand of at least `2 ^ 52` unless the
exponent is the least one. -/
structure Binary64 where
  negative : Bool
  significand : Nat
  exponent : Int
  deriving DecidableEq, Repr

namespace Binary64

/-- The exponent of the smallest steps. -/
def leastExponent : Int := -1074

def greatestExponent : Int := 971

/-- The nearest integer to a quotient; a tie goes to the even neighbour. -/
def nearestEven (num den : Nat) : Nat :=
  let q := num / den
  let twice := 2 * (num % den)
  if twice < den then q
  else if den < twice then q + 1
  else if q % 2 = 0 then q else q + 1

def scaled (num den : Nat) (power : Int) : Nat × Nat :=
  if 0 ≤ power then (num * Nat.pow 2 power.toNat, den)
  else (num, den * Nat.pow 2 (-power).toNat)

/-- The greatest `k` with `2 ^ k ≤ num / den`, for a quotient that is not zero. -/
def floorLog2 (num den : Nat) : Int :=
  let guess : Int := (Nat.log2 num : Int) - (Nat.log2 den : Int)
  let (n, d) := scaled num den (-guess)
  if d ≤ n then guess else guess - 1

/-- The magnitude that represents a quotient, as significand and exponent; none if it is too
large for the format. -/
def roundQuotient (num den : Nat) : Option (Nat × Int) :=
  if num = 0 then some (0, leastExponent)
  else
    let exponent := max (floorLog2 num den - 52) leastExponent
    let (n, d) := scaled num den (-exponent)
    let significand := nearestEven n d
    let (significand, exponent) :=
      if significand = Nat.pow 2 53 then (Nat.pow 2 52, exponent + 1) else (significand, exponent)
    if greatestExponent < exponent then none else some (significand, exponent)

def isZero (x : Binary64) : Bool := x.significand == 0

def neg (x : Binary64) : Binary64 := { x with negative := !x.negative }

/-- The value nearest to a quotient of natural numbers. -/
def ofQuotient? (num den : Nat) : Option Binary64 :=
  (roundQuotient num den).map fun (significand, exponent) => ⟨false, significand, exponent⟩

def quotient (x : Binary64) : Nat × Nat := scaled x.significand 1 x.exponent

def mul? (x y : Binary64) : Option Binary64 :=
  ofQuotient? (x.quotient.1 * y.quotient.1) (x.quotient.2 * y.quotient.2)

def div? (x y : Binary64) : Option Binary64 :=
  ofQuotient? (x.quotient.1 * y.quotient.2) (x.quotient.2 * y.quotient.1)

/-- The value nearest to a power of ten; past the largest finite value, none. -/
def powerOfTen? (exponent : Nat) : Option Binary64 := ofQuotient? (Nat.pow 10 exponent) 1

/-- The largest power of ten that the format holds, as an exponent. -/
def widestPower : Nat := 308

/-- Divides a magnitude by the widest power of ten again and again; zero stays zero. -/
def divideByWidest? (x : Binary64) : (times : Nat) → Option Binary64
  | 0 => some x
  | times + 1 =>
    if x.isZero then some x
    else ((powerOfTen? widestPower).bind (div? x)).bind fun y => divideByWidest? y times

/-- Multiplies a magnitude with a power of ten. Numbers are read in these steps, each with its own
rounding: one multiplication or division by a power that the format holds, after divisions by the
widest such power for as long as the exponent lies below it. None if the result is too large. -/
def scaleByTen? (x : Binary64) (exponent : Int) : Option Binary64 :=
  if x.isZero then some x
  else if 0 ≤ exponent then
    if exponent ≤ widestPower then (powerOfTen? exponent.toNat).bind (mul? x) else none
  else
    let places := (-exponent).toNat
    let times := (places - 1) / widestPower
    (divideByWidest? x times).bind fun y =>
      (powerOfTen? (places - widestPower * times)).bind (div? y)

end Binary64

end ClusterAdvisor.Decimal
