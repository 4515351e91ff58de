import CodecBench.Text.Blank
/-!
Scans: steps through the characters of a pattern that give a value and leave the rest, or give the
pattern up.
-/

namespace CodecBench

abbrev Scan := StateT (List Char) Option

namespace Scan
variable {σ β : Type}

def next : Scan Char
  | [] => none
  | c :: rest => some (c, rest)

def peek? : Scan (Option Char) := fun s => some (s.head?, s)

def accept (c : Char) : Scan Bool := fun s =>
  if s.head? = some c then some (true, s.tail) else some (false, s)

def expect (c : Char) : Scan Unit := do
  guard ((← next) = c)

def takeWhile (p : Char → Bool) : Scan (List Char) := fun s => some (s.takeWhile p, s.dropWhile p)

/-- Repeats a step until it gives a result. Each step but the last has to use a character up. -/
def repeatedly (step : σ → Scan (σ ⊕ β)) (st : σ) (s : List Char) : Option (β × List Char) :=
  match step st s with
  | none => none
  | some (.inr result, rest) => some (result, rest)
  | some (.inl st, rest) => if rest.length < s.length then repeatedly step st rest else none
termination_by s.length

/-- Passes over blanks, and over comments from a number sign to the end of its line. -/
def dropSpacing : (comment : Bool) → List Char → List Char
  | _, [] => []
  | true, c :: rest => dropSpacing (c ≠ '\n') rest
  | false, c :: rest =>
    if c = '#' then dropSpacing true rest
    else if isBlank c then dropSpacing false rest
    else c :: rest

end Scan
end CodecBench
