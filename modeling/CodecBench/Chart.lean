import CodecBench.Json
import CodecBench.Grid
import CodecBench.Standing
/-!
Charts: the numbers of one picture, with its title and the names along its axis. A bar that is absent
is written as null.
-/

namespace CodecBench

structure Bars where
  id : String
  title : String
  encode : List (Option Float)
  decode : List (Option Float)
  names : List String

/-- Groups of bars, one group for each subject and in it one bar for each variant. -/
structure Groups where
  id : String
  title : String
  baseline : String
  subjects : List String
  series : List Series

inductive Chart where
  | category (bars : Bars)
  | overall (bars : Bars)
  | comparison (groups : Groups)

namespace Chart

def ofPairing (p : Pairing) (r : Ratios) : Chart :=
  .category ⟨p.category, p.title, r.encode.map some, r.decode.map some, p.algorithms⟩

def ofStandings (ss : List Standing) : Chart :=
  .overall ⟨"overall", "Overall", ss.map fun s => s.encode.map (·.ratio),
    ss.map fun s => s.decode.map (·.ratio), ss.map (·.algorithm)⟩

def ofComparison (c : Comparison) : Chart :=
  .comparison ⟨"compare_" ++ c.kind.tag, c.kind.tag ++ " performance comparison", c.baseline,
    c.subjects, c.series⟩

def id : Chart → String
  | .category b | .overall b => b.id
  | .comparison g => g.id

def bar : Option Float → Json
  | none => .null
  | some r => .number r

def strings (ss : List String) : Json := .array (ss.map .string)

def barsJson (kind : String) (b : Bars) : Json :=
  .object [("chart", .string kind), ("id", .string b.id), ("title", .string b.title),
    ("legend", strings [Kind.encode.tag, Kind.decode.tag]), ("encode", .array (b.encode.map bar)),
    ("decode", .array (b.decode.map bar)), ("names", strings b.names)]

def seriesJson (s : Series) : Json :=
  .object [("variant", .string s.variant), ("values", .array (s.values.map .number))]

def toJson : Chart → Json
  | .category b => barsJson "category" b
  | .overall b => barsJson "overall" b
  | .comparison g =>
    .object [("chart", .string "comparison"), ("id", .string g.id), ("title", .string g.title),
      ("baseline", .string g.baseline), ("subjects", strings g.subjects),
      ("series", .array (g.series.map seriesJson))]

end Chart
end CodecBench
