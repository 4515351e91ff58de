import CodecBench.Category
/-!
Pairings: a category whose encoding and decoding measurements, sorted by algorithm, stand opposite
each other one by one and share one label, one time unit and one category. The terms that all have
to share are those of the first encoding measurement. `Category.pair` gives the pairing, or the
first `Mismatch`: the lengths, then position by position the algorithms and the terms.
-/

namespace CodecBench

inductive Mismatch where
  | length (encode decode : Nat)
  | algorithm (index : Nat) (encode decode : String)
  | label (algorithm : String) (expected found : Option String)
  | timeUnit (algorithm expected found : String)
  | category (algorithm expected found : String)
deriving DecidableEq, Repr

structure Pairing where
  category : String
  label : Option String
  timeUnit : String
  algorithms : List String
  encode : List Measurement
  decode : List Measurement

namespace Pairing

/-- The shared label, or the category where there is none. -/
def title (p : Pairing) : String := p.label.getD p.category

def size (p : Pairing) : Nat := p.algorithms.length

def isEmpty (p : Pairing) : Bool := p.algorithms.isEmpty

def pairs (p : Pairing) : List (Measurement × Measurement) := p.encode.zip p.decode

end Pairing

/-- Sorts by algorithm. Measurements of one algorithm keep their order. -/
def sortByAlgorithm (ms : List Measurement) : List Measurement :=
  ms.mergeSort fun a b => decide (a.algorithm ≤ b.algorithm)

/-- What the measurements of a pairing have in common. -/
structure Terms where
  label : Option String
  timeUnit : String
  category : String

namespace Terms

def ofList (category : String) : List Measurement → Terms
  | [] => ⟨none, "", category⟩
  | m :: _ => ⟨m.label, m.timeUnit, m.category⟩

/-- How a measurement departs from the terms: by its label, else its unit, else its category. -/
def mismatch? (t : Terms) (m : Measurement) : Option Mismatch :=
  if m.label ≠ t.label then some (.label m.algorithm t.label m.label)
  else if m.timeUnit ≠ t.timeUnit then some (.timeUnit m.algorithm t.timeUnit m.timeUnit)
  else if m.category ≠ t.category then some (.category m.algorithm t.category m.category)
  else none

/-- The mismatch of one position: the algorithms, then the encoding side, then the decoding one. -/
def mismatchAt? (t : Terms) (index : Nat) (e d : Measurement) : Option Mismatch :=
  if e.algorithm ≠ d.algorithm then some (.algorithm index e.algorithm d.algorithm)
  else (t.mismatch? e).or (t.mismatch? d)

def firstMismatch? (t : Terms) (index : Nat) : List Measurement → List Measurement → Option Mismatch
  | e :: es, d :: ds => (t.mismatchAt? index e d).or (firstMismatch? t (index + 1) es ds)
  | _, _ => none

end Terms

def Category.pair (c : Category) : Except Mismatch Pairing :=
  let encode := sortByAlgorithm c.encode
  let decode := sortByAlgorithm c.decode
  let terms := Terms.ofList c.name encode
  if encode.length ≠ decode.length then .error (.length encode.length decode.length)
  else
    match terms.firstMismatch? 0 encode decode with
    | some mismatch => .error mismatch
    | none =>
      .ok ⟨c.name, terms.label, terms.timeUnit, encode.map (·.algorithm), encode, decode⟩

end CodecBench
