import CodecBench.Regex.Nested
import CodecBench.Regex.Piece
/-!
Sets between brackets. They hold characters, ranges, named sets and further brackets; two signs `&&`,
`--` or `~~` join what is before them to what is after them, from left to right.
-/

namespace CodecBench

/-- A bracket that is being read: what its last part is joined to, and the items of that part, the
newest first. -/
structure Bracket where
  negated : Bool
  join : Nested CharSet → Nested CharSet
  items : List (Nested CharSet)

namespace Bracket

def add (b : Bracket) (s : Nested CharSet) : Bracket := { b with items := s :: b.items }

def content (b : Bracket) : Nested CharSet := b.join (.row CharSet.unions b.items)

def operate (f : Flags) (op : CharSet → CharSet → CharSet) (b : Bracket) : Bracket :=
  { b with
    join := fun right => .wrapBoth (fun s t => op (f.fold s) (f.fold t)) b.content right
    items := [] }

/-- The set of a bracket. What is not in an ASCII set is no ASCII set. -/
def close? (f : Flags) (b : Bracket) : Option (Nested CharSet) := do
  guard (f.unicode ∨ !b.negated)
  return (b.content.map fun s => if b.negated then .complement (f.fold s) else f.fold s).wrap

def operation? : Char → Option (CharSet → CharSet → CharSet)
  | '&' => some .intersection
  | '-' => some .difference
  | '~' => some .symmetricDifference
  | _ => none

end Bracket

namespace Scan

/-- The start of a bracket after its sign. Minus signs that come first stand for themselves, and so does
a closing sign. -/
def openBracket (f : Flags) : Scan Bracket := do
  f.spacing
  let negated ← accept '^'
  f.spacing
  let minus ← spacedWhile f (· = '-')
  let closing ← if minus = [] then accept ']' else pure false
  f.spacing
  let signs := if closing then [']'] else minus
  guard (signs.all f.admits)
  return ⟨negated, id, signs.map fun c => .leaf (.single c)⟩

/-- A named set after its opening sign: a name between colons, and a closing sign. Anything else is not
used up. -/
def namedSet? : Scan (Option (Bool × CodePoints)) :=
  optional do
    expect ':'
    let negated ← accept '^'
    let name ← takeWhile (· ≠ ':')
    expect ':'
    expect ']'
    return (negated, ← CharSet.named.lookup (.ofList name))

def pieceAfter (f : Flags) (c : Char) : Scan Piece :=
  if c = '\\' then escape f else return .character c

def bracketItem (f : Flags) (c : Char) : Scan CharSet := do
  let first ← pieceAfter f c
  f.spacing
  let rest ← get
  let after := if f.spaced then dropSpacing false rest.tail else rest.tail
  if rest.head? = some '-' ∧ after.head? ≠ some ']' ∧ after.head? ≠ some '-' then
    let _ ← next
    f.spacing
    let last ← pieceAfter f (← next)
    match first, last with
    | .character c, .character d => do
      guard (f.admits c ∧ f.admits d ∧ c ≤ d)
      return .range c d
    | _, _ => failure
  else
    match first with
    | .character c => do
      guard (f.admits c)
      return .single c
    | .set s => return s
    | .look _ => failure

/-- Reads on in the innermost of some brackets, up to the end of the outermost. -/
def bracketStep (f : Flags) (st : Bracket × List Bracket) :
    Scan ((Bracket × List Bracket) ⊕ Nested CharSet) := do
  let (b, outer) := st
  f.spacing
  let c ← next
  if c = '[' then
    match ← namedSet? with
    | some (negated, s) => do
      guard (if f.unicode then !f.caseless else !negated)
      let s := f.fold (.points s)
      return .inl (b.add (.leaf (if negated then .complement s else s)), outer)
    | none => return .inl (← openBracket f, b :: outer)
  else if c = ']' then do
    let s ← b.close? f
    match outer with
    | [] => return .inr s
    | b :: outer => return .inl (b.add s, outer)
  else
    match Bracket.operation? c, ← peek? with
    | some op, some d =>
      if d = c then do
        let _ ← next
        return .inl (b.operate f op, outer)
      else return .inl (b.add (.leaf (← bracketItem f c)), outer)
    | _, _ => return .inl (b.add (.leaf (← bracketItem f c)), outer)

def bracket (f : Flags) : Scan (Nested CharSet) := do
  let b ← openBracket f
  repeatedly (bracketStep f) (b, [])

end Scan
end CodecBench
