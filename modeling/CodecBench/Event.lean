import CodecBench.Report
/-!
Events: what is told about a run besides its report, each with its level, the part of the program
that tells it, and its wording. A filter keeps the events up to a level, which may differ from part to
part.
-/

namespace CodecBench

inductive Level where
  | error
  | warn
  | info
  | debug
  | trace
deriving DecidableEq, Repr

namespace Level

/-- The higher the rank, the more there is of its kind. -/
def rank : Level → Nat
  | .error => 1
  | .warn => 2
  | .info => 3
  | .debug => 4
  | .trace => 5

def name : Level → String
  | .error => "ERROR"
  | .warn => "WARN"
  | .info => "INFO"
  | .debug => "DEBUG"
  | .trace => "TRACE"

end Level

inductive Event where
  | aggregateSkipped (name : String)
  | setAside (m : Measurement)
  | notCounted (kind : Kind) (algorithm : String)
  | diagnosed (d : Diagnostic)
  | reported (categories overall comparisons diagnostics : Nat)
  | relabelled (stem label : String)
  | chartsWritten (count : Nat) (folder : String)

namespace Event

def level : Event → Level
  | .aggregateSkipped _ | .setAside _ | .notCounted .. => .debug
  | .diagnosed _ | .relabelled .. => .warn
  | .reported .. | .chartsWritten .. => .info

def target : Event → String
  | .aggregateSkipped _ => "benchreport::record"
  | .setAside _ => "benchreport::group"
  | .notCounted .. => "benchreport::aggregate"
  | .diagnosed _ | .reported .. => "benchreport::pipeline"
  | .relabelled .. => "benchreport::input"
  | .chartsWritten .. => "benchreport"

def message : Event → String
  | .aggregateSkipped name => s!"skipping aggregate entry {name}"
  | .setAside m =>
    s!"{m.category}/{m.kind.tag}_{m.algorithm} is neither encode nor decode, ignored"
  | .notCounted kind algorithm =>
    s!"{kind.tag} sample of {algorithm} has no baseline ratio, excluded"
  | .diagnosed d => d.message
  | .reported categories overall comparisons diagnostics =>
    s!"{categories} categories reported, {overall} overall algorithms, " ++
      s!"{comparisons} comparisons, {diagnostics} diagnostics"
  | .relabelled stem label => s!"run label `{stem}` is ambiguous, using `{label}`"
  | .chartsWritten count folder => s!"{count} charts written to {folder}"

end Event

def Input.events (i : Input) : List Event :=
  (Entry.aggregates i.entries).map .aggregateSkipped ++
    (Entry.rejections i.entries).map fun r => .diagnosed (.rejected r)

def Sample.events (xs : List Sample) : List Event :=
  (xs.filter (·.lacksBaseline)).map fun x => .notCounted x.kind x.algorithm

namespace Report

def setAsideEvents : List Input → List Event
  | [] => []
  | first :: _ => (Category.setAside (Entry.measurements first.entries)).map .setAside

def verdictEvents : Except Diagnostic CategoryReport → List Event
  | .error d => [.diagnosed d]
  | .ok c => Sample.events c.samples

def summary (r : Report) : Event :=
  .reported r.categories.length r.overall.length r.comparisons.length r.diagnostics.length

def events (s : Settings) (inputs : List Input) : List Event :=
  inputs.flatMap Input.events ++ setAsideEvents inputs ++
    (verdicts s inputs).flatMap verdictEvents ++
    ((outcomes s inputs).filterMap failure?).map (fun f => .diagnosed (.uncompared f)) ++
    [(ofInputs s inputs).summary]

end Report
end CodecBench
