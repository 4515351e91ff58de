import CodecBench.Ratio
import CodecBench.Roster
/-!
Standings: how an algorithm did over all categories, as the mean time and the mean ratio of its
samples, encoding and decoding apart. A sample whose ratio is zero had no usable baseline: it is not
counted, but its algorithm is entered all the same.
-/

namespace CodecBench

structure Mean where
  cpuTime : Float
  ratio : Float
  samples : Nat

structure Standing where
  algorithm : String
  encode : Option Mean
  decode : Option Mean

structure Sample where
  kind : Kind
  algorithm : String
  cpuTime : Float
  ratio : Float

def Sample.lacksBaseline (s : Sample) : Bool := s.kind.isMeasured && s.ratio == 0.0

/-- The samples of a category: its encoding measurements with their ratios, then the decoding ones. -/
def Pairing.samples (p : Pairing) (r : Ratios) : List Sample :=
  (p.encode.zip r.encode).map (fun x => ⟨.encode, x.1.algorithm, x.1.cpuTime, x.2⟩) ++
    (p.decode.zip r.decode).map (fun x => ⟨.decode, x.1.algorithm, x.1.cpuTime, x.2⟩)

structure Sums where
  cpuTime : Float
  ratio : Float
  count : Nat

namespace Sums

def zero : Sums := ⟨0.0, 0.0, 0⟩

def add (t : Sums) (cpuTime ratio : Float) : Sums :=
  ⟨t.cpuTime + cpuTime, t.ratio + ratio, t.count + 1⟩

def mean? (t : Sums) : Option Mean :=
  if t.count = 0 then none
  else some ⟨t.cpuTime / .ofNat t.count, t.ratio / .ofNat t.count, t.count⟩

end Sums

structure Totals where
  encode : Sums
  decode : Sums

namespace Totals

def zero : Totals := ⟨.zero, .zero⟩

def add (t : Totals) (s : Sample) : Totals :=
  if s.ratio == 0.0 then t
  else
    match s.kind with
    | .encode => { t with encode := t.encode.add s.cpuTime s.ratio }
    | .decode => { t with decode := t.decode.add s.cpuTime s.ratio }
    | .other _ => t

end Totals

structure Standings where
  totals : Roster String Totals

namespace Standings

def empty : Standings := ⟨∅⟩

def size (s : Standings) : Nat := s.totals.size

def isEmpty (s : Standings) : Bool := s.totals.isEmpty

def add (s : Standings) (x : Sample) : Standings :=
  if x.kind.isMeasured then
    ⟨s.totals.update x.algorithm fun t? => (t?.getD .zero).add x⟩
  else s

def addAll (s : Standings) (xs : List Sample) : Standings := xs.foldl add s

def toList (s : Standings) : List Standing :=
  s.totals.entries.map fun e => ⟨e.1, e.2.encode.mean?, e.2.decode.mean?⟩

end Standings
end CodecBench
