/-!
Sets of code points, given as closed ranges.
-/

namespace CodecBench

structure CodePoints where
  ranges : List (Nat × Nat)
deriving DecidableEq, Repr

def CodePoints.contains (s : CodePoints) (c : Char) : Bool :=
  s.ranges.any fun r => r.1 ≤ c.toNat && c.toNat ≤ r.2

end CodecBench
