import CodecBench.LogFilter
import CodecBench.Plan
/-!
The command: it reads the files, prints, logs to standard error, and writes the charts. What it does is
laid down by the plan of the command line.
-/

namespace CodecBench

def usageText : String :=
  "Compare encode/decode benchmark results against a baseline\n\n" ++
  "Usage: benchreport [OPTIONS] <INPUT>\n\n" ++
  "Options:\n" ++
  "      --variant <FILE>                  Another results file, compared against INPUT\n" ++
  "      --baseline <BASELINE>             Variant that the others are related to\n" ++
  "      --baseline-algorithm <ALGORITHM>  Algorithm that percentages are related to\n" ++
  "      --chart-dir <DIR>                 Directory receiving chart series\n" ++
  "      --per-category                    Also print one table per category\n" ++
  "      --color <COLOR>                   Colour the tables: auto, always or never\n" ++
  "  -h, --help                            Print help"

def findFile (path : String) : IO Found := do
  try
    return .content (← IO.FS.readBinFile path).toList
  catch
    | .inappropriateType .. => return .noContent
    | _ => return .nothing

def findFiles : List String → IO (List (String × Found))
  | [] => return []
  | path :: rest => do
    match ← findFile path with
    | .content bytes => return (path, .content bytes) :: (← findFiles rest)
    | found => return [(path, found)]

def logEvents (filter : LogFilter) (events : List Event) : IO Unit :=
  (events.filter filter.keeps).forM fun e => do
    IO.eprintln ("[" ++ e.level.name ++ " " ++ e.target ++ "] " ++ e.message)

def reportFailure (failure : Failure) : IO UInt32 := do
  IO.eprintln ("Error: " ++ failure.message)
  return 1

def makeFolder (path : String) : IO Unit := do
  let toMake := Path.toMake path
  if toMake ≠ "" then IO.FS.createDirAll toMake
  unless ← (← IO.FS.realPath path).isDir do throw (IO.userError "not a folder")

def writeCharts (filter : LogFilter) (charts : ChartPlan) : IO UInt32 := do
  try makeFolder charts.folder
  catch _ => return ← reportFailure (.noChartFolder charts.folder)
  try charts.files.forM fun f => IO.FS.writeFile (Path.join charts.folder f.1) f.2
  catch _ => return ← reportFailure charts.failure
  if charts.refusal.isSome then reportFailure charts.failure
  else do
    logEvents filter [charts.event]
    return 0

def carryOut (filter : LogFilter) (plan : Plan) : IO UInt32 := do
  logEvents filter plan.events
  match plan.failure with
  | some failure => reportFailure failure
  | none =>
    let output ← IO.getStdout
    output.putStr plan.output
    output.flush
    match plan.charts with
    | none => return 0
    | some charts => writeCharts filter charts

def environment : IO (String → Option String) := do
  let names := ["BENCHREPORT_BASELINE", "BENCHREPORT_CHART_DIR", "NO_COLOR", "RUST_LOG"]
  let values ← names.mapM fun name => return (name, ← IO.getEnv name)
  return fun name => (values.lookup name).join

def runMain (args : List String) : IO UInt32 := do
  let env ← environment
  match CommandLine.read env args with
  | .error .help => do
    IO.println usageText
    return 0
  | .error _ => do
    IO.eprintln usageText
    return 2
  | .ok c => do
    let files ← findFiles c.inputs
    let terminal := (← (← IO.getStdout).isTty) && (env "NO_COLOR").isNone
    carryOut (.ofEnvironment env) (c.plan (fun path => (files.lookup path).getD .nothing) terminal)

end CodecBench

def main (args : List String) : IO UInt32 := CodecBench.runMain args
