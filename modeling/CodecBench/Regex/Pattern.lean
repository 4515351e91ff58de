import CodecBench.Regex.Bracket
import CodecBench.Text.Alphanumeric
/-!
Patterns: the text of a regular expression. A text may be no pattern, and a pattern may be nested too
deeply or count too high.
-/

namespace CodecBench

/-- What stands in a row: a part, or flags for what follows, which cannot be repeated. -/
inductive PatternItem where
  | part (p : Nested Regex)
  | flags

def PatternItem.regex : PatternItem → Nested Regex
  | .part p => p
  | .flags => .leaf .empty

/-- A group that is being read: its flags, the branches before this one, and the items of this one, the
newest first. -/
structure PatternGroup where
  flags : Flags
  branches : List (Nested Regex)
  items : List PatternItem

namespace PatternGroup

def start (f : Flags) : PatternGroup := ⟨f, [], []⟩

def add (g : PatternGroup) (p : Nested Regex) : PatternGroup :=
  { g with items := .part p :: g.items }

def branch (g : PatternGroup) : Nested Regex :=
  .row Regex.sequence (g.items.reverse.map PatternItem.regex)

def divide (g : PatternGroup) : PatternGroup :=
  { g with branches := g.branch :: g.branches, items := [] }

def regex (g : PatternGroup) : Nested Regex :=
  .row Regex.alternatives (g.branch :: g.branches).reverse

def repeatLast? (g : PatternGroup) (b : Bounds) : Option PatternGroup :=
  match g.items with
  | .part p :: items =>
    some { g with items := .part ((p.map fun p => .repeated p b).wrap) :: items }
  | _ => none

def setFlags (g : PatternGroup) (f : Flags) : PatternGroup :=
  { g with flags := f, items := .flags :: g.items }

end PatternGroup

/-- A pattern that is being read: the innermost group, the groups around it, and the group names that
are taken. -/
structure PatternReading where
  group : PatternGroup
  outer : List PatternGroup
  names : List (List Char)

namespace PatternReading

def within (r : PatternReading) (g : PatternGroup) : PatternReading := { r with group := g }

def enter (r : PatternReading) (f : Flags) : PatternReading :=
  { r with group := .start f, outer := r.group :: r.outer }

def leave? (r : PatternReading) : Option PatternReading :=
  match r.outer with
  | [] => none
  | g :: outer => some { r with group := g.add r.group.regex.wrap, outer := outer }

end PatternReading

/-- Whether some characters are a name: letters, numbers and a few signs, with no number at first. -/
def isGroupName : List Char → Bool
  | [] => false
  | c :: rest =>
    (c == '_' || (isAlphanumeric c && !c.isDigit)) &&
      rest.all fun c => c == '_' || c == '.' || c == '[' || c == ']' || isAlphanumeric c

namespace Scan

def namedGroup (r : PatternReading) : Scan PatternReading := do
  let name ← takeWhile (· ≠ '>')
  expect '>'
  guard (isGroupName name ∧ name ∉ r.names)
  return { r.enter r.group.flags with names := name :: r.names }

/-- A group with flags of its own, or flags for the rest of the group around. -/
def flagged (r : PatternReading) : Scan PatternReading := do
  let letters ← takeWhile fun c => c ≠ ':' ∧ c ≠ ')'
  let f ← r.group.flags.withLetters? letters
  if ← accept ':' then return r.enter f
  else
    expect ')'
    guard (letters ≠ [])
    return r.within (r.group.setFlags f)

def groupStart (r : PatternReading) : Scan PatternReading := do
  r.group.flags.spacing
  if ← accept '?' then
    if ← accept '<' then namedGroup r
    else if ← accept 'P' then
      expect '<'
      namedGroup r
    else flagged r
  else return r.enter r.group.flags

/-- Repeats the newest item. A question mark after it tells only which of the matches is taken. -/
def repetition (r : PatternReading) (b : Bounds) : Scan PatternReading := do
  let g ← r.group.repeatLast? b
  let _ ← accept '?'
  return r.within g

def pieceRegex? (f : Flags) : Piece → Option Regex
  | .character c => f.character? c
  | .set s => some (.set s)
  | .look l => some (.look l)

def part (f : Flags) (c : Char) : Scan (Nested Regex) :=
  match c with
  | '[' => do return (← bracket f).map Regex.set
  | '.' => do return .leaf (← f.anything?)
  | '^' => return .leaf (.look f.lineStart)
  | '$' => return .leaf (.look f.lineEnd)
  | c => do return .leaf (← pieceRegex? f (← pieceAfter f c))

def patternStep (r : PatternReading) : Scan (PatternReading ⊕ Nested Regex) := do
  r.group.flags.spacing
  match ← peek? with
  | none =>
    guard (r.outer.length = 0)
    return .inr r.group.regex
  | some c => do
    let _ ← next
    match c with
    | '(' => return .inl (← groupStart r)
    | ')' => return .inl (← r.leave?)
    | '|' => return .inl (r.within r.group.divide)
    | '?' => return .inl (← repetition r ⟨0, some 1⟩)
    | '*' => return .inl (← repetition r ⟨0, none⟩)
    | '+' => return .inl (← repetition r ⟨1, none⟩)
    | '{' => do
      let b ← bounds r.group.flags
      r.group.flags.spacing
      return .inl (← repetition r b)
    | c => return .inl (r.within (r.group.add (← part r.group.flags c)))

def pattern : Scan (Nested Regex) := repeatedly patternStep ⟨.start .start, [], []⟩

end Scan

namespace Regex

def greatestDepth : Nat := 250

/-- Ten mebibytes. -/
def greatestSize : Nat := 10 * 1024 * 1024

def ofText? (s : String) : Option Regex := do
  let (p, _) ← Scan.pattern s.toList
  guard (p.depth ≤ greatestDepth ∧ p.value.size ≤ greatestSize)
  return p.value

end Regex
end CodecBench
