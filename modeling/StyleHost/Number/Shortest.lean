import StyleHost.Number.Double

/-!
# The shortest decimal that reads back

A positive double is the nearest double to every number of an interval around it. Of the decimals
in that interval `Shortest.digits` picks one with the fewest digits, and of those the nearest to
the double.

On the grid of decimals with `k` digits only the two neighbours of the double have to be tried: if
any grid point lies in the interval, one of the neighbours does.

* `Decimal` : an integer of digits with a power of ten.
* `Shortest.decimal` : the decimal chosen for a positive magnitude. A tie between the two
  neighbours goes up.
-/

namespace StyleHost

/-- The number `digits * 10 ^ exponent`. -/
structure Decimal where
  digits : Nat
  exponent : Int
deriving DecidableEq, Repr

namespace Shortest

/-- The interval of numbers that read as one double, in quarters of a unit. -/
structure Interval where
  low : Nat
  value : Nat
  high : Nat
  /-- Whether the two ends belong to the interval. -/
  closed : Bool

/-- The interval of a positive magnitude. Its ends are half way to the neighbouring doubles; below
the least mantissa of a binade the neighbour is twice as near. The ends round to the double exactly
if its mantissa is even. -/
def interval (x : Magnitude) : Interval :=
  let below := if x.mantissa = leadingOne ∧ x.exponent ≠ 0 then 1 else 2
  { low := (4 * x.mantissa - below) <<< x.exponent
    value := (4 * x.mantissa) <<< x.exponent
    high := (4 * x.mantissa + 2) <<< x.exponent
    closed := x.mantissa % 2 == 0 }

/-- Whether `num / den` lies in the interval. -/
def Interval.contains (i : Interval) (num den : Nat) : Bool :=
  if i.closed then i.low * den ≤ num && num ≤ i.high * den
  else i.low * den < num && num < i.high * den

/-- The number of quarter units in one: the least positive double has four. -/
def perOne : Nat := 4 * unitsPerOne

/-- The quotient `10 ^ e` for any integer `e`, as numerator and denominator. -/
def tenTo (e : Int) : Nat × Nat :=
  if 0 ≤ e then (Nat.pow 10 e.toNat, 1) else (1, Nat.pow 10 (-e).toNat)

/-- The neighbour of the value on the grid of multiples of `10 ^ e` that lies in the interval: the
nearer one if both do, the upper one on a tie. -/
def onGrid (i : Interval) (e : Int) : Option Decimal :=
  let (num, den) := tenTo e
  -- one grid step is `num / den`, that is `perOne * num / den` quarter units
  let step := perOne * num
  let below := i.value * den / step
  let rest := i.value * den % step
  let down := i.contains (below * step) den
  let up := i.contains ((below + 1) * step) den
  match down, up with
  | true, true => some ⟨if 2 * rest < step then below else below + 1, e⟩
  | true, false => some ⟨below, e⟩
  | false, true => some ⟨below + 1, e⟩
  | false, false => none

/-- The number of decimal digits of a natural number. -/
def width (n : Nat) : Nat := (Nat.toDigits 10 n).length

/-- The exponent of the leading digit: the largest `e` with `10 ^ e` at most the value. -/
def leading (i : Interval) : Int :=
  if perOne ≤ i.value then (width (i.value / perOne) : Int) - 1
  else
    -- below one: the number of zeros after the point, from the width of the reciprocal
    let w := width (perOne / i.value)
    if perOne ≤ i.value * Nat.pow 10 (w - 1) then -((w : Int) - 1) else -(w : Int)

/-- A decimal without trailing zeros in its digits. -/
def strip (fuel : Nat) (d : Decimal) : Decimal :=
  match fuel with
  | 0 => d
  | fuel + 1 =>
    if d.digits ≠ 0 ∧ d.digits % 10 = 0 then strip fuel ⟨d.digits / 10, d.exponent + 1⟩ else d

/-- The first grid with a decimal in the interval, from one digit to seventeen. -/
def search (i : Interval) (top : Int) : List Nat → Decimal
  | [] => ⟨i.value / perOne, 0⟩
  | k :: ks =>
    match onGrid i (top - k) with
    | some d => strip 20 d
    | none => search i top ks

/-- The shortest decimal of a positive magnitude. -/
def decimal (x : Magnitude) : Decimal :=
  let i := interval x
  search i (leading i) (List.range 18)

end Shortest

end StyleHost
