import CodecBench.Text.CodePoints
/-!
Sets of characters: ranges, and what can be made of sets.
-/

namespace CodecBench

def otherCase (c : Char) : Char := if c.isLower then c.toUpper else c.toLower

inductive CharSet where
  | points (s : CodePoints)
  | complement (s : CharSet)
  | caseless (s : CharSet)
  | union (s t : CharSet)
  | intersection (s t : CharSet)
  | difference (s t : CharSet)
  | symmetricDifference (s t : CharSet)
deriving DecidableEq, Repr

namespace CharSet

def contains (c : Char) : CharSet → Bool
  | points s => s.contains c
  | complement s => !s.contains c
  | caseless s => s.contains c || s.contains (otherCase c)
  | union s t => s.contains c || t.contains c
  | intersection s t => s.contains c && t.contains c
  | difference s t => s.contains c && !t.contains c
  | symmetricDifference s t => s.contains c != t.contains c

instance : EmptyCollection CharSet := ⟨points ⟨[]⟩⟩

def range (first last : Char) : CharSet := points ⟨[(first.toNat, last.toNat)]⟩

def single (c : Char) : CharSet := range c c

def unions (sets : List CharSet) : CharSet := sets.foldr union ∅

/-- Whether a set is made of ASCII characters only, as far as its parts show. -/
def isAscii : CharSet → Bool
  | points s => s.ranges.all fun r => r.2 < 128
  | complement _ => false
  | caseless s => s.isAscii
  | union s t => s.isAscii && t.isAscii
  | intersection s t => s.isAscii || t.isAscii
  | difference s _ => s.isAscii
  | symmetricDifference s t => s.isAscii && t.isAscii

def digits : CodePoints := ⟨[(0x30, 0x39)]⟩

def spaces : CodePoints := ⟨[(0x9, 0xD), (0x20, 0x20)]⟩

def wordCharacters : CodePoints := ⟨[(0x30, 0x39), (0x41, 0x5A), (0x5F, 0x5F), (0x61, 0x7A)]⟩

def named : List (String × CodePoints) :=
  [("alnum", ⟨[(0x30, 0x39), (0x41, 0x5A), (0x61, 0x7A)]⟩), ("alpha", ⟨[(0x41, 0x5A), (0x61, 0x7A)]⟩),
    ("ascii", ⟨[(0x0, 0x7F)]⟩), ("blank", ⟨[(0x9, 0x9), (0x20, 0x20)]⟩),
    ("cntrl", ⟨[(0x0, 0x1F), (0x7F, 0x7F)]⟩), ("digit", digits), ("graph", ⟨[(0x21, 0x7E)]⟩),
    ("lower", ⟨[(0x61, 0x7A)]⟩), ("print", ⟨[(0x20, 0x7E)]⟩),
    ("punct", ⟨[(0x21, 0x2F), (0x3A, 0x40), (0x5B, 0x60), (0x7B, 0x7E)]⟩), ("space", spaces),
    ("upper", ⟨[(0x41, 0x5A)]⟩), ("word", wordCharacters),
    ("xdigit", ⟨[(0x30, 0x39), (0x41, 0x46), (0x61, 0x66)]⟩)]

end CharSet
end CodecBench
