import CodecBench.Measurement
import CodecBench.Ratio
import CodecBench.Roster
/-!
Grids: the time of each variant on each subject, for one kind of measurement. A grid is related to a
baseline variant subject by subject (`Grid.compare`); that needs a time in every cell, and the first
cell without one is named otherwise.
-/

namespace CodecBench

structure Grid where
  rows : Roster String (Roster String Float)

inductive ComparisonFault where
  | missingBaseline (kind : Kind) (baseline : String)
  | incomplete (kind : Kind) (variant subject : String)
deriving DecidableEq, Repr

structure Series where
  variant : String
  values : List Float

structure Comparison where
  kind : Kind
  baseline : String
  subjects : List String
  series : List Series

/-- The ratios of a variant; of variants of one name the first. -/
def Comparison.values? (c : Comparison) (variant : String) : Option (List Float) :=
  (c.series.find? fun s => s.variant == variant).map (·.values)

namespace Grid

def empty : Grid := ⟨∅⟩

/-- Enters a time. The last time of a cell counts. -/
def insert (g : Grid) (subject variant : String) (cpuTime : Float) : Grid :=
  ⟨g.rows.update subject fun row? => (row?.getD ∅).insert variant cpuTime⟩

def get? (g : Grid) (subject variant : String) : Option Float :=
  (g.rows.get? subject).bind (·.get? variant)

def subjects (g : Grid) : List String := g.rows.keys

/-- The variants, read off row by row. -/
def variants (g : Grid) : List String := (g.rows.values.flatMap (·.keys)).eraseDups

def hasVariant (g : Grid) (variant : String) : Bool := g.rows.values.any (·.contains variant)

def isEmpty (g : Grid) : Bool := g.rows.isEmpty

/-- The ratio of one cell to the baseline's cell of its row, which is looked up first. -/
def cell (kind : Kind) (baseline variant subject : String) (row : Roster String Float) :
    Except ComparisonFault Float :=
  match row.get? baseline with
  | none => .error (.incomplete kind baseline subject)
  | some base =>
    match row.get? variant with
    | none => .error (.incomplete kind variant subject)
    | some t => .ok (relativeTo base t)

def cells (kind : Kind) (baseline variant : String) :
    List (String × Roster String Float) → Except ComparisonFault (List Float)
  | [] => .ok []
  | (subject, row) :: rest =>
    match cell kind baseline variant subject row with
    | .error fault => .error fault
    | .ok value =>
      match cells kind baseline variant rest with
      | .error fault => .error fault
      | .ok values => .ok (value :: values)

def seriesOf (kind : Kind) (baseline : String) (rows : List (String × Roster String Float)) :
    List String → Except ComparisonFault (List Series)
  | [] => .ok []
  | variant :: rest =>
    match cells kind baseline variant rows with
    | .error fault => .error fault
    | .ok values =>
      match seriesOf kind baseline rows rest with
      | .error fault => .error fault
      | .ok series => .ok (⟨variant, values⟩ :: series)

def compare (g : Grid) (kind : Kind) (baseline : String) : Except ComparisonFault Comparison :=
  if g.hasVariant baseline then
    match seriesOf kind baseline g.rows.entries g.variants with
    | .error fault => .error fault
    | .ok series => .ok ⟨kind, baseline, g.subjects, series⟩
  else .error (.missingBaseline kind baseline)

end Grid

/-- What is compared: the algorithms within each category, or whole runs. -/
inductive VariantSource where
  | algorithms
  | runs
deriving DecidableEq, Repr

structure Run where
  label : String
  measurements : List Measurement

namespace VariantSource

def subject (source : VariantSource) (m : Measurement) : String :=
  match source with
  | .algorithms => m.category
  | .runs => m.category ++ "/" ++ m.algorithm

def variant (source : VariantSource) (label : String) (m : Measurement) : String :=
  match source with
  | .algorithms => m.algorithm
  | .runs => label

end VariantSource

structure Grids where
  encode : Grid
  decode : Grid

namespace Grids

def empty : Grids := ⟨.empty, .empty⟩

def insert (source : VariantSource) (label : String) (g : Grids) (m : Measurement) : Grids :=
  match m.kind with
  | .encode =>
    { g with encode := g.encode.insert (source.subject m) (source.variant label m) m.cpuTime }
  | .decode =>
    { g with decode := g.decode.insert (source.subject m) (source.variant label m) m.cpuTime }
  | .other _ => g

def ofRuns (source : VariantSource) (runs : List Run) : Grids :=
  runs.foldl (fun g run => run.measurements.foldl (insert source run.label) g) empty

/-- The comparisons of both directions, if the baseline took part in both. -/
def compare (g : Grids) (baseline : String) :
    Except ComparisonFault (List (Except ComparisonFault Comparison)) :=
  if g.encode.hasVariant baseline then
    if g.decode.hasVariant baseline then
      .ok [g.encode.compare .encode baseline, g.decode.compare .decode baseline]
    else .error (.missingBaseline .decode baseline)
  else .error (.missingBaseline .encode baseline)

end Grids
end CodecBench
