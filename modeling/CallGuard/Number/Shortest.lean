/-
The shortest decimal that reads back as a given double. Reading rounds to the
nearest double, so the decimals that read back as a number form an interval
around it; its ends belong to it exactly when the significand is even. For one
digit, two digits and so on, the two neighbours of the number on that decimal
grid are tried, and the first grid with a neighbour in the interval wins. Of two
neighbours the nearer is taken, of equally near ones the larger.
-/
import CallGuard.Number.Binary64
import CallGuard.Number.Decimal

namespace CallGuard.Binary64

/-- Everything is scaled by this power of ten, so that the smallest double has digits to spare
before the point. -/
def decimalBias : Nat := 400

/-- A positive finite number and the ends of the interval that rounds to it, as numerators over a
common denominator, all scaled by `10 ^ decimalBias`. -/
structure Interval where
  below : Nat
  value : Nat
  above : Nat
  denominator : Nat
  closed : Bool

/-- The interval of the reals that round to `x`. Below a power of two the neighbour is nearer. -/
def interval (x : Binary64) : Interval :=
  let unit := (if 1077 ≤ x.scale then 1 <<< (x.scale - 1077) else 1) * Nat.pow 10 decimalBias
  let quarters := 4 * x.significand
  { below := (quarters - if x.fraction = 0 ∧ 1 < x.exponent then 1 else 2) * unit
    value := quarters * unit
    above := (quarters + 2) * unit
    denominator := if 1077 ≤ x.scale then 1 else 1 <<< (1077 - x.scale)
    closed := x.significand % 2 = 0 }

/-- The neighbour of the value on the grid of multiples of `step` that lies in the interval. -/
def Interval.neighbour (i : Interval) (step : Nat) : Option Nat :=
  let lower := i.value / step
  let upper := lower + 1
  let lowerFits := i.below < lower * step || (i.closed && i.below == lower * step)
  let upperFits := upper * step < i.above || (i.closed && upper * step == i.above)
  if lowerFits && upperFits then
    some (if 2 * (i.value - lower * step) < step then lower else upper)
  else if lowerFits then some lower
  else if upperFits then some upper
  else none

/-- The first hit among the grids with `count`, `count + 1`, … significant digits. -/
def Interval.search (i : Interval) (places : Nat) : Nat → Nat → Decimal
  | 0, _ => ⟨i.value / i.denominator, -decimalBias⟩
  | fuel + 1, count =>
    match i.neighbour (i.denominator * Nat.pow 10 (places - count)) with
    | some found =>
      if found = Nat.pow 10 count then ⟨1, (places : Int) - decimalBias⟩
      else ⟨found, (places : Int) - count - decimalBias⟩
    | none => i.search places fuel (count + 1)

/-- The shortest decimal that rounds to the magnitude of a finite number; seventeen digits always
suffice. -/
def shortest (x : Binary64) : Decimal :=
  if x.isZero then ⟨0, 0⟩
  else
    let i := x.interval
    i.search (Decimal.digits (i.value / i.denominator)).length 17 1

/-! ### Text -/

/-- A sign for negative numbers, then the shortest digits in positional notation. -/
def text (x : Binary64) : String :=
  if x.isNaN then "NaN"
  else
    let body := if x.isInfinite then ['i', 'n', 'f'] else x.shortest.positional
    String.ofList (if x.isNegative then '-' :: body else body)

/-- As `text`, with a plus sign on numbers that are not negative. -/
def signedText (x : Binary64) : String :=
  if x.isNaN || x.isNegative then x.text else "+" ++ x.text

/-- The whole number in front of the point, with every digit, and one decimal place. Exact for
numbers without a fractional part. -/
def wholeText (x : Binary64) : String :=
  let body := Decimal.digits (x.ratio.1 / x.ratio.2) ++ ['.', '0']
  String.ofList (if x.isNegative then '-' :: body else body)

end CallGuard.Binary64
