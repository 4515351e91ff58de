import CodecBench.Document.Value
import CodecBench.Measurement
/-!
Results documents: the entries under the key `benchmarks`. A document and an entry are objects, or
arrays of their fields in order; what is not asked for is passed over. The first flaw in the order of
the bytes is the one that is told.
-/

namespace CodecBench
namespace Document
open Reader

structure Fields where
  name : Option String
  cpuTime : Option (Option Float)
  timeUnit : Option (Option String)
  label : Option (Option String)
  runType : Option (Option String)

def Fields.empty : Fields := ⟨none, none, none, none, none⟩

def field (key : String) (f : Fields) : Reader Fields :=
  if key = "name" then do
    return { f with name := some (← memberValue f.name textValue) }
  else if key = "cpu_time" then do
    return { f with cpuTime := some (← memberValue f.cpuTime (nullable numberValue)) }
  else if key = "time_unit" then do
    return { f with timeUnit := some (← memberValue f.timeUnit (nullable textValue)) }
  else if key = "label" then do
    return { f with label := some (← memberValue f.label (nullable textValue)) }
  else if key = "run_type" then do
    return { f with runType := some (← memberValue f.runType (nullable textValue)) }
  else do
    skipMember
    return f

def fieldsInOrder : List (Fields → UInt8 → Reader Fields) :=
  [fun f b => do return { f with name := some (← textValue b) },
    fun f b => do return { f with cpuTime := some (← nullable numberValue b) },
    fun f b => do return { f with timeUnit := some (← nullable textValue b) },
    fun f b => do return { f with label := some (← nullable textValue b) },
    fun f b => do return { f with runType := some (← nullable textValue b) }]

def Fields.entry (f : Fields) : Reader Entry :=
  match f.name with
  | none => fail .unsuitable
  | some name =>
    return ⟨name, f.cpuTime.join, f.timeUnit.join, f.label.join, f.runType.join⟩

def entry (b : UInt8) : Reader Entry :=
  if b = ascii '\x7b' then do
    (← members field .empty).entry
  else if b = ascii '[' then do
    (← sequence fieldsInOrder .empty).entry
  else refuse b

def entries (b : UInt8) : Reader (List Entry) := if b = ascii '[' then list entry else refuse b

def benchmarks (key : String) (es : Option (List Entry)) : Reader (Option (List Entry)) :=
  if key = "benchmarks" then some <$> memberValue es entries
  else do
    skipMember
    return es

/-- The entries of a document from its first byte on; a document may lack them. -/
def document (b : UInt8) : Reader (List Entry) :=
  if b = ascii '\x7b' then do
    return (← members benchmarks none).getD []
  else if b = ascii '[' then do
    return (← sequence [fun _ b => some <$> entries b] none).getD []
  else refuse b

/-- The entries of a document, after which only blanks may follow. -/
def read (s : Bytes) : Except Flaw (List Entry) :=
  match (token >>= document).read s with
  | .error flaw => .error flaw
  | .ok (es, rest) => if rest.dropWhile isBlank = [] then .ok es else .error .malformed

end Document
end CodecBench
