import CodecBench.Decimal.Shortest
/-!
Texts of doubles: the shortest decimal in one of the manners of `Manner`, or a fixed number of places
with the exact value rounded, halves to even.
-/

namespace CodecBench

structure Manner where
  /-- Whether a number whose first digit stands for `10 ^ e` is written without an exponent. -/
  positional : Int → Bool
  /-- Whether a whole number shows one place after the point. -/
  showsPoint : Bool
  tieUp : Bool

namespace Decimal

def zeros (n : Nat) : List Char := List.replicate n '0'

/-- Digits with a point `places` from their end. -/
def withPoint (digits : List Char) (places : Nat) : List Char :=
  let padded := zeros (places + 1 - digits.length) ++ digits
  let whole := padded.take (padded.length - places)
  if places = 0 then whole else whole ++ '.' :: padded.drop (padded.length - places)

def positionalText (showsPoint : Bool) (digits : List Char) (exponent : Int) : List Char :=
  if exponent < 0 then withPoint digits exponent.natAbs
  else
    digits ++ zeros exponent.toNat ++ if showsPoint then ['.', '0'] else []

def scientificText (digits : List Char) (leading : Int) : List Char :=
  let rest := digits.drop 1
  let sign := if leading < 0 then '-' else '+'
  digits.take 1 ++ (if rest = [] then [] else '.' :: rest) ++
    'e' :: sign :: Nat.toDigits 10 leading.natAbs

def text (m : Manner) (d : Decimal) : List Char :=
  let digits := if d.coefficient = 0 then ['0'] else d.digits
  let leading := digits.length - 1 + d.exponent
  if m.positional leading then positionalText m.showsPoint digits d.exponent
  else scientificText digits leading

end Decimal

/-- The quotient rounded to the nearest whole number, halves to even. -/
def roundDiv (num den : Nat) : Nat :=
  let q := num / den
  let r := num % den
  if 2 * r < den then q
  else if den < 2 * r then q + 1
  else q + q % 2

namespace Binary

def signed (negative : Bool) (text : List Char) : String :=
  .ofList (if negative then '-' :: text else text)

/-- The texts of what is not finite are fixed; an undefined number has no sign. -/
def text (finite : Nat → Int → List Char) : Binary → String
  | .nan => "NaN"
  | .infinite negative => signed negative ['i', 'n', 'f']
  | .finite negative significand exponent => signed negative (finite significand exponent)

end Binary

def shortestText (m : Manner) (x : Float) : String :=
  (Binary.ofFloat x).text fun significand exponent =>
    (Decimal.shortest m.tieUp significand exponent).text m

def fixedText (places : Nat) (x : Float) : String :=
  (Binary.ofFloat x).text fun significand exponent =>
    let (two, half) := powersOf 2 exponent
    Decimal.withPoint (Nat.toDigits 10 (roundDiv (significand * two * Nat.pow 10 places) half)) places

end CodecBench
