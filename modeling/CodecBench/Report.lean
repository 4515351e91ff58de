import CodecBench.Chart
import CodecBench.Diagnostic
import CodecBench.Table
/-!
Reports: the categories of the first input with their ratios, the standings over them, and the
comparisons over all inputs. Every entry, category or comparison that is left out has its diagnostic:
the rejected entries of all inputs first, then the skipped categories, then the comparisons not made.
-/

namespace CodecBench

structure Settings where
  baseline : Baseline
  baselineVariant : String
  source : VariantSource
  perCategory : Bool

def defaultVariant : String := "SonicDyn"

structure Input where
  label : String
  entries : List Entry

def Input.run (i : Input) : Run := ⟨i.label, Entry.measurements i.entries⟩

structure CategoryReport where
  pairing : Pairing
  ratios : Ratios

def CategoryReport.samples (c : CategoryReport) : List Sample := c.pairing.samples c.ratios

def CategoryReport.rows (c : CategoryReport) : List Row := c.pairing.rows c.ratios

def Category.report (b : Baseline) (c : Category) : Except Diagnostic CategoryReport :=
  match c.pair with
  | .error mismatch => .error (.skipped c.name (.mismatched mismatch))
  | .ok p =>
    if p.timeUnit ≠ reportUnit then .error (.skipped c.name (.unexpectedUnit p.timeUnit))
    else
      match p.ratios? b with
      | none => .error (.skipped c.name (.unknownBaseline b.algorithm))
      | some r => .ok ⟨p, r⟩

def success? {ε α : Type} : Except ε α → Option α
  | .ok a => some a
  | .error _ => none

def failure? {ε α : Type} : Except ε α → Option ε
  | .ok _ => none
  | .error e => some e

structure Report where
  categories : List CategoryReport
  overall : List Standing
  comparisons : List Comparison
  diagnostics : List Diagnostic

namespace Report

/-- The categories to report on: those of the first input. -/
def categoriesOf : List Input → List Category
  | [] => []
  | first :: _ => Category.collect (Entry.measurements first.entries)

def verdicts (s : Settings) (inputs : List Input) : List (Except Diagnostic CategoryReport) :=
  (categoriesOf inputs).map (Category.report s.baseline)

/-- What became of each comparison; one verdict on both where the baseline is missing. -/
def outcomes (s : Settings) (inputs : List Input) : List (Except ComparisonFault Comparison) :=
  match (Grids.ofRuns s.source (inputs.map Input.run)).compare s.baselineVariant with
  | .error fault => [.error fault]
  | .ok both => both

def standings (cs : List CategoryReport) : List Standing :=
  (Standings.empty.addAll (cs.flatMap (·.samples))).toList

def ofInputs (s : Settings) (inputs : List Input) : Report where
  categories := (verdicts s inputs).filterMap success?
  overall := standings ((verdicts s inputs).filterMap success?)
  comparisons := (outcomes s inputs).filterMap success?
  diagnostics :=
    inputs.flatMap (fun i => (Entry.rejections i.entries).map .rejected) ++
      (verdicts s inputs).filterMap failure? ++
      ((outcomes s inputs).filterMap failure?).map .uncompared

/-- The overall table, after a table for each category if these are asked for. -/
def tables (r : Report) (perCategory : Bool) : List Table :=
  (if perCategory then r.categories.map fun c => ⟨some c.pairing.title, c.rows⟩ else []) ++
    [⟨none, r.overall.map Row.ofStanding⟩]

def text (r : Report) (perCategory : Bool) (p : Palette) : String :=
  p.render ((r.tables perCategory).flatMap (·.spans))

def charts (r : Report) : List Chart :=
  r.categories.map (fun c => .ofPairing c.pairing c.ratios) ++
    .ofStandings r.overall :: r.comparisons.map .ofComparison

end Report
end CodecBench
