import ClusterAdvisor.Decimal.Binary64

/-!
The shortest decimal of a binary number: the fewest digits that read back as the same value, and
of several such decimals the nearest.
-/

namespace ClusterAdvisor.Decimal

/-- The decimal `0.d₁d₂… * 10 ^ point` of a list of digits. -/
structure Digits where
  digits : List Nat
  point : Int
  deriving DecidableEq, Repr

namespace Binary64

/-- A multiple `count * 10 ^ power` of a power of ten, compared with a quotient. -/
def compareGrid (count : Nat) (power : Int) (num den : Nat) : Ordering :=
  let (n, d) :=
    if 0 ≤ power then (count * Nat.pow 10 power.toNat, 1) else (count, Nat.pow 10 (-power).toNat)
  compare (n * den) (num * d)

/-- The ends of the interval of numbers that round to the magnitude, in quarters of its last
place, over `4`. Below a power of two the lower neighbour is only half as far. -/
def interval (x : Binary64) : (Nat × Nat) × (Nat × Nat) :=
  let below := if x.significand = Nat.pow 2 52 ∧ leastExponent < x.exponent then 1 else 2
  (scaled (4 * x.significand - below) 4 x.exponent, scaled (4 * x.significand + 2) 4 x.exponent)

/-- Whether the decimal `count * 10 ^ power` rounds to the magnitude; the ends of the interval do
so when the significand is even. -/
def readsBack (x : Binary64) (count : Nat) (power : Int) : Bool :=
  let ((lowNum, lowDen), (highNum, highDen)) := x.interval
  let even := x.significand % 2 == 0
  let low := compareGrid count power lowNum lowDen
  let high := compareGrid count power highNum highDen
  (low == .gt || (low == .eq && even)) && (high == .lt || (high == .eq && even))

/-- The greatest multiple of `10 ^ power` that is no larger than the magnitude. -/
def gridBelow (x : Binary64) (power : Int) : Nat :=
  let (num, den) := x.quotient
  if 0 ≤ power then num / (den * Nat.pow 10 power.toNat)
  else num * Nat.pow 10 (-power).toNat / den

/-- Whether the upper one of the two neighbours on the grid is the nearer; a tie goes to the even
one. -/
def upperIsNearer (x : Binary64) (count : Nat) (power : Int) : Bool :=
  let (num, den) := x.quotient
  match compareGrid (2 * count + 1) power (2 * num) den with
  | .lt => true
  | .gt => false
  | .eq => count % 2 == 1

/-- The neighbour of the magnitude on the grid of multiples of `10 ^ power` that reads back. -/
def onGrid? (x : Binary64) (power : Int) : Option Nat :=
  let count := x.gridBelow power
  match x.readsBack count power, x.readsBack (count + 1) power with
  | true, true => some (if x.upperIsNearer count power then count + 1 else count)
  | true, false => some count
  | false, true => some (count + 1)
  | false, false => none

/-- The first of `fuel` grids, each ten times finer than the one before, that has a decimal which
reads back. -/
def firstOnGrid (x : Binary64) : (fuel : Nat) → (power : Int) → Nat × Int
  | 0, power => (x.gridBelow power, power)
  | fuel + 1, power =>
    match x.onGrid? power with
    | some count => (count, power)
    | none => firstOnGrid x fuel (power - 1)

/-- The power of ten of the coarsest grid worth a try: the one on which the magnitude has at most
one digit. -/
def coarsestPower (x : Binary64) : Int :=
  let (num, den) := x.quotient
  (floorLog2 num den * 30103) / 100000 + 1

/-- The digits of the shortest decimal, without zeros at their end; none for zero. Seventeen
digits always suffice. -/
def shortest (x : Binary64) : Digits :=
  if x.isZero then ⟨[], 0⟩
  else
    let (count, power) := x.firstOnGrid 18 x.coarsestPower
    let digits := (Nat.toDigits 10 count).map fun c => c.toNat - '0'.toNat
    ⟨(digits.reverse.dropWhile (· == 0)).reverse, power + digits.length⟩

end Binary64

end ClusterAdvisor.Decimal
