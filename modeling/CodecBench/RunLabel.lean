import CodecBench.Path
/-!
Run labels: a run is called by the stem of its path. Where stems coincide the whole path is used
instead, and a label that is taken gets the position of the run added.
-/

namespace CodecBench
namespace RunLabel

/-- The stem of a path, or the whole of a path that has none. -/
def stem (path : String) : String := (Path.stem? path).getD path

/-- The label of the run at `index`, where the labels of the runs before it are taken. -/
def choose (stems taken : List String) (index : Nat) (path : String) : String :=
  let label := if 1 < stems.count (stem path) then path else stem path
  if label ∈ taken then label ++ "#" ++ toString (index + 1) else label

def chooseAll (stems taken : List String) (index : Nat) : List String → List String
  | [] => []
  | path :: rest =>
    let label := choose stems taken index path
    label :: chooseAll stems (label :: taken) (index + 1) rest

def ofPaths (paths : List String) : List String := chooseAll (paths.map stem) [] 0 paths

theorem length_chooseAll (stems taken : List String) (index : Nat) (paths : List String) :
    (chooseAll stems taken index paths).length = paths.length := by
  induction paths generalizing taken index with
  | nil => rfl
  | cons path rest ih => simp [chooseAll, ih]

theorem length_ofPaths (paths : List String) : (ofPaths paths).length = paths.length :=
  length_chooseAll _ _ _ _

end RunLabel
end CodecBench
