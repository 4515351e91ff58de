import CodecBench.ChartFolder
import CodecBench.CommandLine
import CodecBench.Loading
/-!
Plans: what a command does once its files have been looked at. The results are loaded before anything
is printed, and everything is printed before the chart folder is made.
-/

namespace CodecBench

inductive Failure where
  | notLoaded (input : String) (fault : LoadFault)
  | noChartFolder (folder : String)
  | chartsNotWritten (folder : String) (refusal : Option Refusal)

def Failure.message : Failure → String
  | .notLoaded input _ => s!"cannot load benchmark results for {input}"
  | .noChartFolder folder => s!"cannot create chart directory {folder}"
  | .chartsNotWritten folder _ => s!"cannot write charts to {folder}"

/-- The chart files of a folder, by name; a refusal stands for the charts from there on. -/
structure ChartPlan where
  folder : String
  files : List (String × String)
  refusal : Option Refusal

/-- What a command does: it logs, prints and writes charts. A failure here comes before the printing. -/
structure Plan where
  events : List Event
  failure : Option Failure
  output : String
  charts : Option ChartPlan

namespace ChartPlan

def ofReport (folder : String) (r : Report) : ChartPlan :=
  let (charts, refusal) := (ChartFolder.empty folder).emitAll r.charts
  ⟨folder, charts.written.values.map fun c => (ChartFolder.fileName c, ChartFolder.content c),
    refusal⟩

def failure (p : ChartPlan) : Failure := .chartsNotWritten p.folder p.refusal

def event (p : ChartPlan) : Event := .chartsWritten p.files.length p.folder

end ChartPlan

def CommandLine.plan (find : String → Found) (terminal : Bool) (c : CommandLine) : Plan :=
  match Loading.report find c.settings c.inputs with
  | (events, .error fault) => ⟨events, some (.notLoaded c.input fault), "", none⟩
  | (events, .ok r) =>
    ⟨events, none, r.text c.perCategory (c.coloring.palette terminal),
      c.chartFolder.map fun folder => .ofReport folder r⟩

end CodecBench
