import CodecBench.Columns
import CodecBench.Decimal.Text
import CodecBench.Standing
/-!
Tables: rows of percentages and times under fixed headers, every column as wide as its widest cell. A
table is laid out as spans of text with their tints, and a palette turns the spans into text; so the
tints have no say in the layout.
-/

namespace CodecBench

/-- One line of a table. What is absent is shown as such. -/
structure Row where
  name : String
  encodeRatio : Option Float
  encodeTime : Option Float
  decodeRatio : Option Float
  decodeTime : Option Float

namespace Row

def ofStanding (s : Standing) : Row where
  name := s.algorithm
  encodeRatio := s.encode.map (·.ratio)
  encodeTime := s.encode.map (·.cpuTime)
  decodeRatio := s.decode.map (·.ratio)
  decodeTime := s.decode.map (·.cpuTime)

def absent : String := "N/A"

def percent : Option Float → String
  | none => absent
  | some r => fixedText 2 (r * 100.0) ++ "%"

def time : Option Float → String
  | none => absent
  | some t => fixedText 0 t

def cells (r : Row) : List String :=
  [r.name, percent r.encodeRatio, time r.encodeTime, percent r.decodeRatio, time r.decodeTime]

end Row

def Pairing.rows (p : Pairing) (r : Ratios) : List Row :=
  p.pairs.mapIdx fun i x =>
    ⟨x.1.algorithm, r.encode[i]?, some x.1.cpuTime, r.decode[i]?, some x.2.cpuTime⟩

inductive Tint where
  | header
  | name
  | value
deriving DecidableEq, Repr

structure Span where
  tint : Option Tint
  text : String
deriving DecidableEq, Repr

/-- What is written before a tinted span, and what after it. -/
structure Palette where
  header : String
  name : String
  value : String
  reset : String

namespace Palette

def plain : Palette := ⟨"", "", "", ""⟩

def ansi : Palette := ⟨"\x1b[0;34m", "\x1b[32m", "\x1b[33m", "\x1b[0m"⟩

def opening (p : Palette) : Tint → String
  | .header => p.header
  | .name => p.name
  | .value => p.value

def paint (p : Palette) (s : Span) : String :=
  match s.tint with
  | none => s.text
  | some tint => p.opening tint ++ s.text ++ p.reset

def render (p : Palette) (spans : List Span) : String := String.join (spans.map p.paint)

end Palette

structure Table where
  title : Option String
  rows : List Row

namespace Table

def headers : List String :=
  ["Names", "Encode", "Encode Avg Time(ns)", "Decode", "Decode Avg Time(ns)"]

def gap : Nat := 8

def withGaps : List Nat → List Nat
  | [] => []
  | [w] => [w]
  | w :: ws => (w + gap) :: withGaps ws

def widest (lines : List (List String)) : List Nat :=
  lines.foldl (fun ws cells => List.zipWith (fun w c => max w (columns c)) ws cells)
    (headers.map columns)

def widths (rows : List Row) : List Nat := withGaps (widest (rows.map (·.cells)))

def spaces (n : Nat) : String := .ofList (List.replicate n ' ')

def newline : Span := ⟨none, "\n"⟩

/-- The cells of a line, each filled up to its width but for the last one. -/
def line : List (Tint × String) → List Nat → List Span
  | [], _ => [newline]
  | [(tint, cell)], _ => [⟨some tint, cell⟩, newline]
  | (tint, cell) :: rest, ws =>
    ⟨some tint, cell ++ spaces (ws.headD 0 - columns cell)⟩ :: line rest ws.tail

def headerLine (ws : List Nat) : List Span := line (headers.map fun h => (.header, h)) ws

def rowLine (ws : List Nat) (r : Row) : List Span :=
  line (List.zip [.name, .value, .value, .value, .value] r.cells) ws

def rule (ws : List Nat) : List Span := [⟨none, .ofList (List.replicate (ws.foldr Nat.add 0) '-')⟩, newline]

def titleLine : Option String → List Span
  | none => []
  | some title => [⟨none, title⟩, newline]

def spans (t : Table) : List Span :=
  let ws := widths t.rows
  newline :: titleLine t.title ++ rule ws ++ headerLine ws ++ rule ws ++
    t.rows.flatMap (rowLine ws) ++ rule ws

end Table
end CodecBench
