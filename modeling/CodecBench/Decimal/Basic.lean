/-!
Decimals: a coefficient and a power of ten. `Binary` takes a double apart into the power of two that
it is. `Decimal.ofDigits` takes up as many digits as a word can hold, and `Decimal.toFloat?` goes from a
decimal to a double, which is the nearest one wherever coefficient and power of ten are themselves
doubles, and else one close to it.
-/

namespace CodecBench

/-- A double taken apart; a finite one is `significand * 2 ^ exponent` with its sign. -/
inductive Binary where
  | nan
  | infinite (negative : Bool)
  | finite (negative : Bool) (significand : Nat) (exponent : Int)
deriving DecidableEq, Repr

def Binary.ofFloat (x : Float) : Binary :=
  let bits := x.toBits.toNat
  let negative := decide (1 <<< 63 ≤ bits)
  let exponent : Nat := (bits >>> 52) % (1 <<< 11)
  let fraction : Nat := bits % (1 <<< 52)
  if exponent = 2047 then
    if fraction = 0 then .infinite negative else .nan
  else if exponent = 0 then .finite negative fraction (-1074)
  else .finite negative ((1 <<< 52) + fraction) (exponent - 1075)

/-- The number `coefficient * 10 ^ exponent`. -/
structure Decimal where
  coefficient : Nat
  exponent : Int
deriving DecidableEq, Repr

namespace Decimal

/-- The digits of the coefficient, none for zero. -/
def digits (d : Decimal) : List Char :=
  if d.coefficient = 0 then [] else Nat.toDigits 10 d.coefficient

/-- Puts digits behind a coefficient as long as a word of 64 bits can hold it; the second part is what
is left of the digits. -/
def append (n : Nat) : List Nat → Nat × List Nat
  | [] => (n, [])
  | d :: ds => if 10 * n + d < 1 <<< 64 then append (10 * n + d) ds else (n, d :: ds)

/-- The decimal of the digits before and after the point, times a power of ten. Digits before the point
that do not fit still count as places, those after it are dropped. -/
def ofDigits (whole places : List Nat) (power : Int) : Decimal :=
  let (n, surplus) := append 0 whole
  let (m, dropped) := append n places
  ⟨m, surplus.length + dropped.length - places.length + power⟩

def powerOfTen (n : Nat) : Float := .ofScientific 1 false n

/-- Divides by a power of ten, in steps if it is too large for a double. -/
def divide (x : Float) (n : Nat) : Float :=
  if n ≤ 308 then x / powerOfTen n
  else if x == 0.0 then x
  else divide (x / powerOfTen 308) (n - 308)
termination_by n
decreasing_by omega

/-- The coefficient, taken as a double, times the power of ten. None where that would be infinite. -/
def size? (d : Decimal) : Option Float :=
  let x := d.coefficient.toUInt64.toFloat
  if d.exponent < 0 then some (divide x d.exponent.natAbs)
  else if x == 0.0 then some x
  else if 308 < d.exponent then none
  else
    let y := x * powerOfTen d.exponent.toNat
    if y.isFinite then some y else none

def toFloat? (negative : Bool) (d : Decimal) : Option Float :=
  d.size?.map fun x => if negative then -x else x

end Decimal

/-- Numerator and denominator of a power; one of them is one. -/
def powersOf (base : Nat) (exponent : Int) : Nat × Nat :=
  (base.pow exponent.toNat, base.pow (-exponent).toNat)

end CodecBench
