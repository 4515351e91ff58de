import CodecBench.Document
import CodecBench.Event
import CodecBench.RunLabel
/-!
Loading: results documents are read in the order of their paths, and the first that cannot be read
ends it. What a path leads to is given by a function.
-/

namespace CodecBench

/-- What a path leads to: nothing that can be opened, something that has no content, or bytes. -/
inductive Found where
  | nothing
  | noContent
  | content (bytes : Bytes)

inductive LoadFault where
  | unopened (path : String)
  | unreadable (path : String)
  | flawed (path : String) (flaw : Flaw)

def LoadFault.message : LoadFault → String
  | .unopened path => s!"cannot read {path}"
  | .unreadable path | .flawed path _ => s!"{path} is not a benchmark results document"

namespace Loading

def load (find : String → Found) (path : String) : Except LoadFault (List Entry) :=
  match find path with
  | .nothing => .error (.unopened path)
  | .noContent => .error (.unreadable path)
  | .content bytes =>
    match Document.read bytes with
    | .error flaw => .error (.flawed path flaw)
    | .ok entries => .ok entries

/-- A warning if a run is not called by its stem. -/
def labelEvents (path label : String) : List Event :=
  if label ≠ RunLabel.stem path then [.relabelled (RunLabel.stem path) label] else []

/-- Loads runs with their labels, with the warnings up to the one that failed. -/
def loadAll (find : String → Found) :
    List (String × String) → List Event × Except LoadFault (List Input)
  | [] => ([], .ok [])
  | (path, label) :: rest =>
    match load find path with
    | .error fault => (labelEvents path label, .error fault)
    | .ok entries =>
      let (events, inputs) := loadAll find rest
      (labelEvents path label ++ events,
        match inputs with
        | .error fault => .error fault
        | .ok inputs => .ok (⟨label, entries⟩ :: inputs))

def report (find : String → Found) (s : Settings) (paths : List String) :
    List Event × Except LoadFault Report :=
  match loadAll find (paths.zip (RunLabel.ofPaths paths)) with
  | (events, .error fault) => (events, .error fault)
  | (events, .ok inputs) => (events ++ Report.events s inputs, .ok (.ofInputs s inputs))

end Loading
end CodecBench
