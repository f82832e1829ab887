import ServiceContract.Numeral.Binary64

/-!
# The shortest decimal that reads back

The reals that round to a double form an interval around it. The shortest decimal is the point
of the coarsest power-of-ten grid that has a point in that interval, and of two such points the
one nearer to the double.
-/

namespace ServiceContract.Numeral

/-- The decimal `digits * 10 ^ exponent`. -/
structure Decimal where
  digits : Nat
  exponent : Int
deriving DecidableEq

/-- Which of two equally near decimals is taken. -/
inductive Tie where
  | toEven
  | upward
deriving DecidableEq

namespace FiniteDouble

/-- The reals that round to a positive double, over a common denominator: `low` and `high` bound
them, `value` is the double itself, and the bounds belong to them when `closed`. -/
structure Interval where
  low : Nat
  value : Nat
  high : Nat
  denominator : Nat
  closed : Bool

/-- The interval of a positive magnitude. Below a power of two the neighbours are half as far
apart as above it. -/
def interval (x : FiniteDouble) : Interval :=
  let m := x.mantissa
  let up := if 2 ≤ x.exponent then Nat.pow 2 (x.exponent - 2).toNat else 1
  let down := if 2 ≤ x.exponent then 1 else Nat.pow 2 (2 - x.exponent).toNat
  let narrow := m = binade ∧ binade < x.rank
  { low := (4 * m - if narrow then 1 else 2) * up
    value := 4 * m * up
    high := (4 * m + 2) * up
    denominator := down
    closed := m % 2 = 0 }

/-- Whether `n` steps of a grid, each `num / den` wide, lie in the interval. -/
def Interval.holds (i : Interval) (n num den : Nat) : Bool :=
  let left := i.low * den
  let point := n * num * i.denominator
  let right := i.high * den
  if i.closed then left ≤ point && point ≤ right else left < point && point < right

/-- The point of the grid of step `10 ^ exponent` that lies in the interval and is nearest to the
value, if there is one. Only the two neighbours of the value can be. -/
def Interval.onGrid (tie : Tie) (i : Interval) (exponent : Int) : Option Nat :=
  let num := if 0 ≤ exponent then Nat.pow 10 exponent.toNat else 1
  let den := if 0 ≤ exponent then 1 else Nat.pow 10 (-exponent).toNat
  let step := num * i.denominator
  let scaled := i.value * den
  let below := scaled / step
  let rest := scaled % step
  let above := below + 1
  match below != 0 && i.holds below num den, i.holds above num den with
  | true, true =>
    if 2 * rest < step then some below
    else if step < 2 * rest then some above
    else match tie with
      | .toEven => if below % 2 = 0 then some below else some above
      | .upward => some above
  | true, false => some below
  | false, true => some above
  | false, false => none

/-- The grids from the coarsest that any double needs to one finer than every double. -/
def gridExponents : List Int := (List.range 660).map fun (i : Nat) => 309 - (i : Int)

/-- The shortest decimal that rounds to the magnitude of `x`, and the nearest of those. Zero has
the digits `0`. -/
def shortest (tie : Tie) (x : FiniteDouble) : Decimal :=
  if x.isZero then ⟨0, 0⟩
  else
    let i := x.interval
    (gridExponents.findSome? fun e => (i.onGrid tie e).map (⟨·, e⟩)).getD ⟨0, 0⟩

end FiniteDouble

end ServiceContract.Numeral
