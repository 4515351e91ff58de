import CodecBench.Disk
import CodecBench.Plan
/-!
Outcomes: what a whole command prints and logs, how it ends, and the disk that it leaves.
-/

namespace CodecBench
namespace ChartPlan

/-- Writes files into a folder, which is at a place, up to the first that cannot be written. -/
def writeAll (d : Disk) (folder : String) (place : Place) : List (String × String) → Disk × Bool
  | [] => (d, true)
  | (name, content) :: rest =>
    if Path.isUsable (Path.join folder name) then
      match d.write (place.inner name) content.toUTF8.toList with
      | none => (d, false)
      | some d => writeAll d folder place rest
    else (d, false)

def execute (p : ChartPlan) (d : Disk) : Disk × Except Failure Event :=
  match d.makeFolder p.folder with
  | none => (d, .error (.noChartFolder p.folder))
  | some (d, place) =>
    let (d, complete) := writeAll d p.folder place p.files
    (d, if complete && p.refusal.isNone then .ok p.event else .error p.failure)

end ChartPlan

structure Outcome where
  usage : Option Usage
  failure : Option Failure
  output : String
  log : List Event
  disk : Disk

namespace Outcome

/-- Zero for success and for help, one for a failure, two for arguments that cannot be read. -/
def status (o : Outcome) : Nat :=
  match o.usage, o.failure with
  | some .help, _ => 0
  | some _, _ => 2
  | none, some _ => 1
  | none, none => 0

def ofUsage (d : Disk) (usage : Usage) : Outcome := ⟨some usage, none, "", [], d⟩

def ofPlan (d : Disk) (p : Plan) : Outcome :=
  match p.charts with
  | none => ⟨none, p.failure, p.output, p.events, d⟩
  | some charts =>
    match charts.execute d with
    | (d, .error failure) => ⟨none, some failure, p.output, p.events, d⟩
    | (d, .ok event) => ⟨none, none, p.output, p.events ++ [event], d⟩

end Outcome

def runCommand (d : Disk) (env : String → Option String) (terminal : Bool) (args : List String) :
    Outcome :=
  match CommandLine.read env args with
  | .error usage => .ofUsage d usage
  | .ok c => .ofPlan d (c.plan d.find terminal)

end CodecBench
