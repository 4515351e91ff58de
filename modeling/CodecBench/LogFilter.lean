import CodecBench.Event
import CodecBench.Regex.Pattern
import CodecBench.Text.Blank
/-!
Log filters, as written in an environment variable: levels, for all parts of the program or for those
whose names start in a given way, and a pattern that has to occur in the messages.
-/

namespace CodecBench

structure Directive where
  target : Option String
  level : Option Level

structure LogFilter where
  directives : List Directive
  pattern : Option Regex

namespace LogFilter

def levels : List (String × Option Level) :=
  [("off", none), ("error", some .error), ("warn", some .warn), ("info", some .info),
    ("debug", some .debug), ("trace", some .trace)]

def level? (s : String) : Option (Option Level) :=
  levels.lookup (.ofList (s.toList.map Char.toLower))

def trim (s : String) : String :=
  .ofList ((s.toList.dropWhile isBlank).reverse.dropWhile isBlank).reverse

def split (sep : Char) (s : String) : List String := (s.toList.splitOn sep).map .ofList

/-- One directive: a level, a target, or both with a sign between them. What is neither is ignored. -/
def directive? (s : String) : Option Directive :=
  match split '=' s with
  | [one] =>
    match level? one with
    | some level => some ⟨none, level⟩
    | none => some ⟨some one, some .trace⟩
  | [target, level] =>
    if trim level = "" then some ⟨some target, some .trace⟩
    else (level? (trim level)).map fun level => ⟨some target, level⟩
  | _ => none

/-- Of two directives for one target the later one holds, in the place of the earlier. -/
def insert (ds : List Directive) (d : Directive) : List Directive :=
  if ds.any fun e => e.target == d.target then
    ds.map fun e => if e.target == d.target then d else e
  else ds ++ [d]

def ofParts (directives : String) (pattern : Option Regex) : LogFilter :=
  ⟨(((split ',' directives).map trim).filter (· ≠ "")).filterMap directive? |>.foldl insert [],
    pattern⟩

/-- The filter of a text: directives, and a pattern after a slash. What is no pattern is ignored. -/
def ofText (s : String) : LogFilter :=
  match split '/' s with
  | [directives] => ofParts directives none
  | [directives, pattern] => ofParts directives (Regex.ofText? pattern)
  | _ => ⟨[], none⟩

def targetLength (d : Directive) : Nat := (d.target.map String.utf8ByteSize).getD 0

def applies (d : Directive) (target : String) : Bool :=
  match d.target with
  | none => true
  | some t => t.toList.isPrefixOf target.toList

/-- The level for a target: that of the longest directive that applies, and of those of one length the
last. Without any directive errors are kept. -/
def levelFor (f : LogFilter) (target : String) : Option Level :=
  if f.directives.isEmpty then some .error
  else
    (((f.directives.filter (applies · target)).foldl
      (fun best d =>
        match best with
        | none => some d
        | some b => if targetLength b ≤ targetLength d then some d else some b) none).bind
      (·.level))

def keeps (f : LogFilter) (e : Event) : Bool :=
  (match f.levelFor e.target with
    | none => false
    | some level => e.level.rank ≤ level.rank) &&
  (match f.pattern with
    | none => true
    | some pattern => pattern.occursIn e.message)

/-- The filter of an environment: warnings and errors if nothing is said. -/
def ofEnvironment (env : String → Option String) : LogFilter :=
  ofText ((env "RUST_LOG").getD "warn")

end LogFilter
end CodecBench
