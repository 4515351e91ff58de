import CodecBench.Report
import CodecBench.RunLabel
/-!
Command lines: the path of the results, and options. An option is settled only once the next argument
shows that it has all its values, so of two faults an argument that is not known comes first. Two of
the options can come from the environment instead.
-/

namespace CodecBench

inductive Coloring where
  | auto
  | always
  | never
deriving DecidableEq, Repr

namespace Coloring

def ofText? (s : String) : Option Coloring :=
  if s = "auto" then some .auto
  else if s = "always" then some .always
  else if s = "never" then some .never
  else none

def palette (coloring : Coloring) (terminal : Bool) : Palette :=
  match coloring with
  | .always => .ansi
  | .never => .plain
  | .auto => if terminal then .ansi else .plain

end Coloring

structure CommandLine where
  input : String
  variants : List String
  baseline : Option String
  baselineAlgorithm : Option String
  chartFolder : Option String
  perCategory : Bool
  coloring : Coloring
deriving DecidableEq, Repr

inductive Usage where
  | missingInput
  | unknownArgument
  | invalidValue
  | repeatedOption
  | unneededValue
  | help
deriving DecidableEq, Repr

namespace CommandLine

def inputs (c : CommandLine) : List String := c.input :: c.variants

/-- What to compare with unless it is given: the main run if runs are compared. -/
def baselineVariant (c : CommandLine) : String :=
  match c.baseline with
  | some b => b
  | none =>
    if c.variants.isEmpty then defaultVariant
    else (RunLabel.ofPaths c.inputs).headD defaultVariant

def settings (c : CommandLine) : Settings where
  baseline := (c.baselineAlgorithm.map Baseline.named).getD .first
  baselineVariant := c.baselineVariant
  source := if c.variants.isEmpty then .algorithms else .runs
  perCategory := c.perCategory

inductive Opt where
  | variant
  | baseline
  | baselineAlgorithm
  | chartFolder
  | color
deriving DecidableEq, Repr

def Opt.ofName? (name : String) : Option Opt :=
  if name = "variant" then some .variant
  else if name = "baseline" then some .baseline
  else if name = "baseline-algorithm" then some .baselineAlgorithm
  else if name = "chart-dir" then some .chartFolder
  else if name = "color" then some .color
  else none

/-- What has been settled so far. -/
structure Draft where
  input : Option String
  variants : List String
  baseline : Option String
  baselineAlgorithm : Option String
  chartFolder : Option String
  perCategory : Bool
  coloring : Option Coloring

def Draft.empty : Draft := ⟨none, [], none, none, none, false, none⟩

/-- The argument that is still to be settled; an option may lack its value yet. -/
inductive Pending where
  | nothing
  | input (path : String)
  | option (opt : Opt) (value : Option String)

namespace Draft

def path (s : String) : Except Usage String := if s = "" then .error .invalidValue else .ok s

def once {α : Type} (former : Option α) (value : Except Usage α) : Except Usage (Option α) :=
  match former with
  | some _ => .error .repeatedOption
  | none => value.map some

def coloringOf (s : String) : Except Usage Coloring :=
  match Coloring.ofText? s with
  | none => .error .invalidValue
  | some c => .ok c

def put (d : Draft) (opt : Opt) (value : String) : Except Usage Draft :=
  match opt with
  | .variant => (path value).map fun v => { d with variants := d.variants ++ [v] }
  | .baseline => (once d.baseline (.ok value)).map fun v => { d with baseline := v }
  | .baselineAlgorithm =>
    (once d.baselineAlgorithm (.ok value)).map fun v => { d with baselineAlgorithm := v }
  | .chartFolder => (once d.chartFolder (path value)).map fun v => { d with chartFolder := v }
  | .color => (once d.coloring (coloringOf value)).map fun v => { d with coloring := v }

def settle (d : Draft) : Pending → Except Usage Draft
  | .nothing => .ok d
  | .input p => (path p).map fun p => { d with input := some p }
  | .option _ none => .error .invalidValue
  | .option opt (some value) => d.put opt value

def setPerCategory (d : Draft) : Except Usage Draft :=
  if d.perCategory then .error .repeatedOption else .ok { d with perCategory := true }

end Draft

inductive Argument where
  | dashes
  | long (name : String) (value : Option String)
  | short (letters : List Char)
  | plain (text : String)

def Argument.ofText (s : String) : Argument :=
  match s.toList with
  | ['-', '-'] => .dashes
  | '-' :: '-' :: rest =>
    .long (.ofList (rest.takeWhile (· ≠ '=')))
      (match rest.dropWhile (· ≠ '=') with
        | [] => none
        | _ :: value => some (.ofList value))
  | '-' :: c :: rest => .short (c :: rest)
  | _ => .plain s

structure Progress where
  draft : Draft
  pending : Pending
  inputSeen : Bool
  valuesOnly : Bool

namespace Progress

def start : Progress := ⟨.empty, .nothing, false, false⟩

def settled (p : Progress) : Except Usage Draft := p.draft.settle p.pending

def input (p : Progress) (path : String) : Except Usage Progress :=
  if p.inputSeen then .error .unknownArgument
  else p.settled.map fun d => { p with draft := d, pending := .input path, inputSeen := true }

def switch (value : Option String) (whenBare : Except Usage Progress) : Except Usage Progress :=
  match value with
  | some _ => .error .unneededValue
  | none => whenBare

def long (p : Progress) (name : String) (value : Option String) : Except Usage Progress :=
  match Opt.ofName? name with
  | some opt =>
    match value with
    | none => p.settled.map fun d => { p with draft := d, pending := .option opt none }
    | some v =>
      (p.settled.bind fun d => d.put opt v).map fun d => { p with draft := d, pending := .nothing }
  | none =>
    if name = "per-category" then
      switch value ((p.settled.bind Draft.setPerCategory).map fun d =>
        { p with draft := d, pending := .nothing })
    else if name = "help" then switch value (p.settled.bind fun _ => .error .help)
    else .error .unknownArgument

def short (p : Progress) (letters : List Char) : Except Usage Progress :=
  if letters.head? = some 'h' then p.settled.bind fun _ => .error .help
  else .error .unknownArgument

def value (p : Progress) (text : String) : Except Usage Progress :=
  match p.pending with
  | .option opt none => .ok { p with pending := .option opt (some text) }
  | _ => p.input text

def step (p : Progress) (arg : String) : Except Usage Progress :=
  if p.valuesOnly then p.input arg
  else
    match Argument.ofText arg with
    | .dashes => .ok { p with valuesOnly := true }
    | .long name value => p.long name value
    | .short letters => p.short letters
    | .plain text => p.value text

end Progress

def readAll (p : Progress) : List String → Except Usage Draft
  | [] => p.settled
  | arg :: rest =>
    match p.step arg with
    | .error usage => .error usage
    | .ok p => readAll p rest

/-- Fills an option that was not given from the environment. -/
def fill (former env : Option String) (check : String → Except Usage String) :
    Except Usage (Option String) :=
  match former, env with
  | none, some v => (check v).map some
  | _, _ => .ok former

def complete (env : String → Option String) (d : Draft) : Except Usage CommandLine := do
  let baseline ← fill d.baseline (env "BENCHREPORT_BASELINE") .ok
  let chartFolder ← fill d.chartFolder (env "BENCHREPORT_CHART_DIR") Draft.path
  match d.input with
  | none => .error .missingInput
  | some input =>
    .ok ⟨input, d.variants, baseline, d.baselineAlgorithm, chartFolder, d.perCategory,
      d.coloring.getD .auto⟩

def read (env : String → Option String) (args : List String) : Except Usage CommandLine :=
  (readAll .start args).bind (complete env)

end CommandLine
end CodecBench
