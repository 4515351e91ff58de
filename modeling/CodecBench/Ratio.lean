import CodecBench.Pairing
/-!
Ratios: the time of each measurement of a list over the time of its baseline. The baseline itself
has ratio one even if it took no time, and then every other ratio is zero.
-/

namespace CodecBench

inductive Baseline where
  | first
  | named (algorithm : String)
deriving DecidableEq, Repr

namespace Baseline

/-- The algorithm asked for; the first one has no name of its own. -/
def algorithm : Baseline → String
  | .first => ""
  | .named a => a

/-- The position of the baseline: the start of the list, or the first one of that algorithm. -/
def position? (b : Baseline) (ms : List Measurement) : Option Nat :=
  match b with
  | .first => if ms.isEmpty then none else some 0
  | .named a => ms.findIdx? fun m => m.algorithm == a

end Baseline

/-- A time over another; zero where the other is zero. -/
def relativeTo (base t : Float) : Float := if base != 0.0 then t / base else 0.0

def ratiosTo (base : Nat) (time : Float) (ms : List Measurement) : List Float :=
  ms.mapIdx fun i m => if i = base then 1.0 else relativeTo time m.cpuTime

/-- The ratios of a list, or nothing if its baseline is missing. An empty list needs no baseline. -/
def ratios? (b : Baseline) (ms : List Measurement) : Option (List Float) :=
  if ms.isEmpty then some []
  else
    match b.position? ms with
    | none => none
    | some base =>
      match ms[base]? with
      | none => none
      | some m => some (ratiosTo base m.cpuTime ms)

structure Ratios where
  encode : List Float
  decode : List Float

def Pairing.ratios? (p : Pairing) (b : Baseline) : Option Ratios :=
  match CodecBench.ratios? b p.encode, CodecBench.ratios? b p.decode with
  | some encode, some decode => some ⟨encode, decode⟩
  | _, _ => none

end CodecBench
