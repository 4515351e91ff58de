import CodecBench.Loading
import CodecBench.Path
/-!
Disks: files and folders seen from a working folder. Places above the working folder, and most of those
under the root, are known only as far as they have been made.
-/

namespace CodecBench

/-- A place: below the root or the working folder, or so many levels above the latter. -/
structure Place where
  rooted : Bool
  above : Nat
  names : List String
deriving DecidableEq, Repr

namespace Place

def here : Place := ⟨false, 0, []⟩

def root : Place := ⟨true, 0, []⟩

/-- The folder around a place; the root is around itself. -/
def outer (p : Place) : Place :=
  if p.names = [] then { p with above := if p.rooted then 0 else p.above + 1 }
  else { p with names := p.names.dropLast }

def inner (p : Place) (name : String) : Place := { p with names := p.names ++ [name] }

/-- Whether all names are short enough for a disk, which takes 255 bytes for each. -/
def fits (p : Place) : Bool := p.names.all fun name => name.utf8ByteSize ≤ 255

def path? (p : Place) : Option String :=
  if p.rooted || p.above != 0 then none else some ("/".intercalate p.names)

def start (path : String) : Place := if path.toList.head? = some '/' then root else here

end Place

structure Disk where
  files : List (Place × Bytes)
  folders : List Place

namespace Disk

def isFolder (d : Disk) (p : Place) : Bool := p.names.isEmpty || d.folders.contains p

def isFile (d : Disk) (p : Place) : Bool := (d.files.lookup p).isSome

/-- The names on a path. An empty one stands for the folder before it, as a dot does. -/
def steps (path : String) : List String := (path.toList.splitOn '/').map .ofList

def step (d : Disk) (p : Place) (name : String) : Option Place :=
  if d.isFolder p then
    if name = "" ∨ name = "." then some p
    else if name = ".." then some p.outer
    else some (p.inner name)
  else none

/-- The place that a path leads to, whether or not there is something. -/
def place? (d : Disk) (path : String) : Option Place :=
  if path ≠ "" ∧ Path.isUsable path then (steps path).foldlM d.step (Place.start path) else none

def find (d : Disk) (path : String) : Found :=
  match d.place? path with
  | none => .nothing
  | some p =>
    if d.isFolder p then .noContent
    else
      match d.files.lookup p with
      | none => .nothing
      | some bytes => .content bytes

def openStep (s : Disk × Place) (name : String) : Option (Disk × Place) :=
  (s.1.step s.2 name).bind fun p =>
    if s.1.isFolder p || s.1.isFile p then some (s.1, p)
    else if p.fits then some ({ s.1 with folders := s.1.folders ++ [p] }, p)
    else none

/-- Makes a folder and those around it, unless there is a file in the way. -/
def makeFolder (d : Disk) (path : String) : Option (Disk × Place) := do
  guard (Path.isUsable path)
  let (d, _) ← (steps (Path.toMake path)).foldlM openStep (d, Place.start path)
  let p ← d.place? path
  guard (d.isFolder p)
  return (d, p)

/-- Writes a file, in the place of a former one, unless there is a folder in the way. -/
def write (d : Disk) (p : Place) (bytes : Bytes) : Option Disk :=
  if d.isFolder p || !p.fits then none
  else some { d with files := d.files.filter (fun f => f.1 ≠ p) ++ [(p, bytes)] }

/-- Puts a file and the folders around it on a disk; a path that ends in a slash is a folder. -/
def put (d : Disk) (path : String) (bytes : Bytes) : Disk :=
  let names := steps path
  match names.getLast? with
  | none | some "" => ((d.makeFolder path).map Prod.fst).getD d
  | some name =>
    match names.dropLast.foldlM openStep (d, Place.start path) with
    | some (d, p) => (d.write (p.inner name) bytes).getD d
    | none => d

/-- What every machine has under the root: a few folders, and a file that is always empty. -/
def bare : Disk :=
  ⟨[(⟨true, 0, ["dev", "null"]⟩, [])],
    ["dev", "etc", "home", "proc", "tmp", "usr", "var"].map Place.root.inner⟩

def ofFiles (files : List (String × Bytes)) : Disk :=
  files.foldl (fun d f => d.put f.1 f.2) bare

def newFiles (d former : Disk) : List (String × Bytes) :=
  (d.files.filter fun f => !former.isFile f.1).filterMap fun f =>
    f.1.path?.map fun path => (path, f.2)

end Disk
end CodecBench
