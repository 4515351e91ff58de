import CodecBench.Name
/-!
Measurements, and the entries of a results document that they are read from. An entry is set aside
as an aggregate, read as a measurement, or rejected with the first of its defects: the name, then
the time (given, finite and not negative), then the unit.
-/

namespace CodecBench

/-- One element of a results document, with the fields that matter here. -/
structure Entry where
  name : String
  cpuTime : Option Float
  timeUnit : Option String
  label : Option String
  runType : Option String
deriving DecidableEq

/-- Means, medians and deviations that a harness appends after repeated runs. -/
def Entry.isAggregate (e : Entry) : Bool := e.runType == some "aggregate"

structure Measurement where
  category : String
  kind : Kind
  algorithm : String
  cpuTime : Float
  timeUnit : String
  label : Option String

inductive Field where
  | cpuTime
  | timeUnit
deriving DecidableEq, Repr

def Field.key : Field → String
  | .cpuTime => "cpu_time"
  | .timeUnit => "time_unit"

inductive Rejection where
  | malformedName (name : String) (fault : Name.Fault)
  | missingField (name : String) (field : Field)
  | invalidCpuTime (name : String) (value : Float)

/-- A time that was really taken: neither negative nor infinite nor undefined. -/
def isDuration (t : Float) : Bool := t.isFinite && !(t < 0.0)

def Measurement.ofEntry (e : Entry) : Except Rejection Measurement :=
  match Name.read e.name with
  | .error fault => .error (.malformedName e.name fault)
  | .ok name =>
    match e.cpuTime with
    | none => .error (.missingField e.name .cpuTime)
    | some t =>
      if isDuration t then
        match e.timeUnit with
        | none => .error (.missingField e.name .timeUnit)
        | some unit => .ok ⟨name.category, name.kind, name.algorithm, t, unit, e.label⟩
      else .error (.invalidCpuTime e.name t)

inductive Reading where
  | aggregate (name : String)
  | measured (m : Measurement)
  | rejected (r : Rejection)

def Entry.read (e : Entry) : Reading :=
  if e.isAggregate then .aggregate e.name
  else
    match Measurement.ofEntry e with
    | .ok m => .measured m
    | .error r => .rejected r

def Reading.measurement? : Reading → Option Measurement
  | .measured m => some m
  | _ => none

def Reading.rejection? : Reading → Option Rejection
  | .rejected r => some r
  | _ => none

def Reading.aggregate? : Reading → Option String
  | .aggregate name => some name
  | _ => none

namespace Entry

def measurements (es : List Entry) : List Measurement :=
  es.filterMap fun e => e.read.measurement?

def rejections (es : List Entry) : List Rejection :=
  es.filterMap fun e => e.read.rejection?

def aggregates (es : List Entry) : List String :=
  es.filterMap fun e => e.read.aggregate?

end Entry
end CodecBench
