import EventRouting.Decimal.Binary64

/-!
# Shortest decimals

The decimal with the fewest digits that reads back as a given floating-point number, and of those
the nearest one. The search runs through grids of one digit, two digits and so on: if a grid has a
point among the reals that round to the number, one of the two grid points beside it is such a
point.
-/

namespace EventRouting.Binary64

/-- The reals that round to a positive number, in quarters of its unit `2 ^ exponent`: `value` lies
between `low` and `high`, and the ends belong to it when `closed`. The reals below the least
significand of an exponent are half as far apart. -/
structure RoundingInterval where
  low : Nat
  value : Nat
  high : Nat
  closed : Bool

/-- The reals that round to `significand * 2 ^ exponent`. -/
def roundingInterval (significand : Nat) (exponent : Int) : RoundingInterval where
  low := 4 * significand - (if significand = Nat.pow 2 52 ∧ leastExponent < exponent then 1 else 2)
  value := 4 * significand
  high := 4 * significand + 2
  closed := significand % 2 == 0

/-- The fraction `n * 10 ^ e`. -/
def tenfold (n : Nat) : Int → Nat × Nat
  | .ofNat e => (n * Nat.pow 10 e, 1)
  | .negSucc e => (n, Nat.pow 10 (e + 1))

/-- The exponent of the leading decimal digit of the positive fraction `num / den`. -/
def leadingExponent (num den : Nat) : Int :=
  if den ≤ num then (digitCount (num / den) : Int) - 1
  else -(digitCount ((den + num - 1) / num - 1) : Int)

/-- Whether the grid point `n * 10 ^ e` lies in the interval, whose unit is `unit.1 / unit.2`. -/
def RoundingInterval.holds (i : RoundingInterval) (unit : Nat × Nat) (n : Nat) (e : Int) : Bool :=
  let p := tenfold n e
  let point := p.1 * unit.2
  let low := i.low * unit.1 * p.2
  let high := i.high * unit.1 * p.2
  if i.closed then low ≤ point && point ≤ high else low < point && point < high

/-- The grid point of step `10 ^ e` that lies in the interval; of two the nearer, and in the middle
of two the even one. -/
def RoundingInterval.gridPoint? (i : RoundingInterval) (unit : Nat × Nat) (e : Int) : Option Nat :=
  let step := tenfold 1 e
  let num := i.value * unit.1 * step.2
  let den := unit.2 * step.1
  let below := num / den
  let above := below + 1
  let twice := 2 * (num % den)
  let lowerFirst := twice < den || (twice == den && below % 2 == 0)
  let (first, second) := if lowerFirst then (below, above) else (above, below)
  if i.holds unit first e then some first
  else if i.holds unit second e then some second
  else none

/-- Takes zeros off the end of the digits, at most `fuel` of them. -/
def dropZeros : Nat → Nat → Int → Nat × Int
  | 0, digits, e => (digits, e)
  | fuel + 1, digits, e =>
      if digits % 10 == 0 && digits != 0 then dropZeros fuel (digits / 10) (e + 1) else (digits, e)

/-- The digits and the exponent of the shortest decimal of a positive number. Seventeen digits are
always enough. -/
def shortest (significand : Nat) (exponent : Int) : Nat × Int :=
  let i := roundingInterval significand exponent
  let unit := match exponent - 2 with
    | .ofNat e => (Nat.pow 2 e, 1)
    | .negSucc e => (1, Nat.pow 2 (e + 1))
  let lead := leadingExponent (i.value * unit.1) unit.2
  let grids := (List.range 17).map fun (n : Nat) => lead - n
  match grids.findSome? fun e => (i.gridPoint? unit e).map (·, e) with
  | some (digits, e) => dropZeros 17 digits e
  | none => (0, 0)

example : shortest 1 (-1074) = (5, -324) := by decide +kernel
example : shortest (2 ^ 52) (-52) = (1, 0) := by decide +kernel
example : shortest 7205759403792794 (-56) = (1, -1) := by decide +kernel
example : shortest (2 ^ 53 - 1) 971 = (17976931348623157, 292) := by decide +kernel

end EventRouting.Binary64
