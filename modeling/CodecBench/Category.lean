import CodecBench.Measurement
import CodecBench.Roster
/-!
Categories: the measurements of one category, encoding and decoding apart, each in the order in
which it came. `Category.collect` sorts measurements into categories, first-seen category first,
and leaves the unmeasured kinds out.
-/

namespace CodecBench

structure Category where
  name : String
  encode : List Measurement
  decode : List Measurement

namespace Category

def size (c : Category) : Nat := c.encode.length + c.decode.length

def isEmpty (c : Category) : Bool := c.size == 0

def add (c : Category) (m : Measurement) : Category :=
  match m.kind with
  | .encode => { c with encode := c.encode ++ [m] }
  | .decode => { c with decode := c.decode ++ [m] }
  | .other _ => c

/-- Files a measurement under its category, which is opened if it is new. -/
def file (r : Roster String Category) (m : Measurement) : Roster String Category :=
  if m.kind.isMeasured then
    r.update m.category fun c? => (c?.getD ⟨m.category, [], []⟩).add m
  else r

def collect (ms : List Measurement) : List Category := (ms.foldl file ∅).values

def setAside (ms : List Measurement) : List Measurement := ms.filter fun m => !m.kind.isMeasured

end Category
end CodecBench
