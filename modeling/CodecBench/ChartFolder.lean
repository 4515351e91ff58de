import CodecBench.Chart
import CodecBench.Path
import CodecBench.Roster
import CodecBench.Text.Alphanumeric
/-!
Chart folders: each chart in a file of its own, named after its id. Two charts never share a file: the
second one is refused.
-/

namespace CodecBench

structure ChartFolder where
  folder : String
  written : Roster String Chart

/-- Why a chart is not written: its path is taken by an earlier chart. -/
structure Refusal where
  previous : String
  id : String
  path : String

def Refusal.message (r : Refusal) : String :=
  s!"charts `{r.previous}` and `{r.id}` both map to {r.path}"

namespace ChartFolder

def empty (folder : String) : ChartFolder := ⟨folder, ∅⟩

/-- An id as a part of a file name: letters, numbers and a few signs stay. -/
def fileStem (id : String) : String :=
  .ofList (id.toList.map fun c =>
    if isAlphanumeric c || c == '-' || c == '_' || c == '.' then c else '_')

/-- Category charts have a name of their own kind, whatever the category is called. -/
def fileName : Chart → String
  | .category b => "category_" ++ fileStem b.id ++ ".json"
  | .overall b => fileStem b.id ++ ".json"
  | .comparison g => fileStem g.id ++ ".json"

def path (f : ChartFolder) (c : Chart) : String := Path.join f.folder (fileName c)

def content (c : Chart) : String := c.toJson.pretty 0 ++ "\n"

def emit (f : ChartFolder) (c : Chart) : Except Refusal ChartFolder :=
  match f.written.get? (f.path c) with
  | some previous => .error ⟨previous.id, c.id, f.path c⟩
  | none => .ok { f with written := f.written.insert (f.path c) c }

def count (f : ChartFolder) : Nat := f.written.size

def files (f : ChartFolder) : List (String × String) :=
  f.written.entries.map fun e => (e.1, content e.2)

/-- Emits charts up to the first refusal. -/
def emitAll (f : ChartFolder) : List Chart → ChartFolder × Option Refusal
  | [] => (f, none)
  | c :: rest =>
    match f.emit c with
    | .error refusal => (f, some refusal)
    | .ok f => f.emitAll rest

end ChartFolder
end CodecBench
