import CodecBench.Decimal.Basic
/-!
Shortest decimals: of the decimals that a double is nearest to, one on the coarsest grid of multiples
of a power of ten, and of those on that grid the nearest to the double.
-/

namespace CodecBench

namespace Decimal

/-- The numbers that round to a double, counted in a unit that makes the double, both ends and the
grid whole. -/
structure Rounding where
  value : Nat
  low : Nat
  high : Nat
  closed : Bool

namespace Rounding

def contains (r : Rounding) (x : Nat) : Bool :=
  if r.closed then r.low ≤ x && x ≤ r.high else r.low < x && x < r.high

/-- The multiple of `step` that rounds to the double and is nearest to it, as a count of steps.
Halfway between two of them `tieUp` decides. -/
def multiple? (r : Rounding) (tieUp : Bool) (step : Nat) : Option Nat :=
  let below := r.value / step
  let above := below + 1
  let okBelow := 0 < below && r.contains (below * step)
  let okAbove := r.contains (above * step)
  if okBelow && okAbove then
    let down := r.value - below * step
    let up := above * step - r.value
    if down < up then some below
    else if up < down then some above
    else some (if tieUp then above else below + below % 2)
  else if okBelow then some below
  else if okAbove then some above
  else none

end Rounding

/-- The numbers that round to `significand * 2 ^ exponent`, in a unit that fits the grid of multiples
of `10 ^ scale`, with the step of that grid. At a power of two the lower half is only half as wide. -/
def rounding (significand : Nat) (exponent scale : Int) : Rounding × Nat :=
  let (ten, tenth) := powersOf 10 scale
  let (two, half) := powersOf 2 (exponent - 2)
  let unit := two * tenth
  let lower := if significand = 1 <<< 52 ∧ -1074 < exponent then 1 else 2
  (⟨4 * significand * unit, (4 * significand - lower) * unit, (4 * significand + 2) * unit,
    significand % 2 == 0⟩, ten * half)

def shortestFrom (tieUp : Bool) (significand : Nat) (exponent : Int) : Nat → Int → Decimal
  | 0, scale => ⟨0, scale⟩
  | tries + 1, scale =>
    let (r, step) := rounding significand exponent scale
    match r.multiple? tieUp step with
    | some n => ⟨n, scale⟩
    | none => shortestFrom tieUp significand exponent tries (scale - 1)

/-- The shortest decimal that rounds to `significand * 2 ^ exponent`. No double has more than 1074
places after the point, so the search ends. -/
def shortest (tieUp : Bool) (significand : Nat) (exponent : Int) : Decimal :=
  let (two, half) := powersOf 2 exponent
  let start := (Nat.toDigits 10 (significand * two / half)).length
  if significand = 0 then ⟨0, 0⟩ else shortestFrom tieUp significand exponent (start + 1076) start

end Decimal
end CodecBench
