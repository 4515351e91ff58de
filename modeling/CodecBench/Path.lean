/-!
Paths, as texts of names between slashes. Empty names and single dots are no names of their own.
-/

namespace CodecBench
namespace Path

def names (path : List Char) : List (List Char) :=
  (path.splitOn '/').filter fun n => n ≠ [] ∧ n ≠ ['.']

/-- The name before its last dot; a dot that opens the name does not count. -/
def beforeLastDot (name : List Char) : List Char :=
  match (name.reverse.dropWhile (· ≠ '.')).drop 1 with
  | [] => name
  | rest => rest.reverse

/-- The last name of a path without its extension, unless it leads upwards. -/
def stem? (path : String) : Option String :=
  match (names path.toList).getLast? with
  | none => none
  | some name => if name = ['.', '.'] then none else some (.ofList (beforeLastDot name))

def join (folder name : String) : String :=
  if folder = "" ∨ folder.toList.getLast? = some '/' then folder ++ name
  else folder ++ "/" ++ name

/-- Whether a path can be asked for at all: it holds no NUL and takes less than 4096 bytes. -/
def isUsable (path : String) : Bool :=
  path.utf8ByteSize < 4096 && !path.toList.contains '\x00'

def endsInDot (path : String) : Bool :=
  ((path.toList.splitOn '/').filter (· ≠ [])).getLast? == some ['.']

/-- The path to the folders that are made for a path. A folder called by a dot is not made, so that of a
path that ends in dots only what is before its last name is left. -/
def toMake (path : String) : String :=
  if endsInDot path then
    .ofList (['/'].intercalate
      (((path.toList.splitOn '/').reverse.dropWhile fun n => n = [] ∨ n = ['.']).drop 1).reverse)
  else path

end Path
end CodecBench
