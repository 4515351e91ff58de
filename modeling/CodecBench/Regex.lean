import CodecBench.Regex.CharSet
/-!
Regular expressions over characters, and whether one occurs in a text. A text is read once from left to
right. `Progress` tells how far an expression has come at a place in the text, in all ways that are still
open at once, and `Regex.advance` goes on by one character.
-/

namespace CodecBench

/-- What a place in a text may look like, by the characters around it. -/
inductive Look where
  | textStart
  | textEnd
  | lineStart
  | lineEnd
  | returnLineStart
  | returnLineEnd
  | wordEdge
  | noWordEdge
  | wordStart
  | wordEnd
  | noWordBefore
  | noWordAfter
deriving DecidableEq, Repr

namespace Look

def isWord (c : Option Char) : Bool := c.any CharSet.wordCharacters.contains

/-- Whether a place looks so, with one character before it and one after it. Lines may end in a line
feed, or also in a carriage return, with no line between the two. -/
def holds (before after : Option Char) : Look → Bool
  | textStart => before.isNone
  | textEnd => after.isNone
  | lineStart => before.isNone || before == some '\n'
  | lineEnd => after.isNone || after == some '\n'
  | returnLineStart =>
    before.isNone || before == some '\n' || (before == some '\r' && after != some '\n')
  | returnLineEnd =>
    after.isNone || after == some '\r' || (after == some '\n' && before != some '\r')
  | wordEdge => isWord before != isWord after
  | noWordEdge => isWord before == isWord after
  | wordStart => !isWord before && isWord after
  | wordEnd => isWord before && !isWord after
  | noWordBefore => !isWord before
  | noWordAfter => !isWord after

end Look

structure Bounds where
  least : Nat
  most : Option Nat
deriving DecidableEq, Repr

/-- What is left of the bounds after one repetition, if there may be one. Where others can be made out of
nothing, the least number is reached at once. -/
def Bounds.next? (b : Bounds) (free : Bool) : Option Bounds :=
  if b.most = some 0 then none
  else some ⟨if free then 0 else b.least - 1, b.most.map (· - 1)⟩

inductive Regex where
  | empty
  | set (s : CharSet)
  | look (l : Look)
  | concat (p q : Regex)
  | choice (p q : Regex)
  | repeated (p : Regex) (b : Bounds)
deriving DecidableEq, Repr

/-- How far an expression has come, with at least one character: nowhere, to the end of a set, in either
of two parts, or in repetitions, each with the bounds on those after it. -/
inductive Progress where
  | nowhere
  | reached
  | parts (a b : Progress)
  | repetitions (rs : List (Bounds × Progress))

namespace Progress

def isNowhere : Progress → Bool
  | nowhere => true
  | _ => false

def both (a b : Progress) : Progress :=
  if a.isNowhere && b.isNowhere then nowhere else parts a b

def first : Progress → Progress
  | parts a _ => a
  | _ => nowhere

def second : Progress → Progress
  | parts _ b => b
  | _ => nowhere

def entries : Progress → List (Bounds × Progress)
  | repetitions rs => rs
  | _ => []

def ofEntries (rs : List (Bounds × Progress)) : Progress :=
  match rs.filter fun r => !r.2.isNowhere with
  | [] => nowhere
  | rs => repetitions rs

end Progress

namespace Regex

def andThen : Regex → Regex → Regex
  | empty, q => q
  | p, empty => p
  | p, q => concat p q

def sequence (ps : List Regex) : Regex := ps.foldr andThen empty

def alternatives : List Regex → Regex
  | [] => empty
  | [p] => p
  | p :: ps => choice p (alternatives ps)

def matchesEmpty (before after : Option Char) : Regex → Bool
  | empty => true
  | set _ => false
  | look l => l.holds before after
  | concat p q => p.matchesEmpty before after && q.matchesEmpty before after
  | choice p q => p.matchesEmpty before after || q.matchesEmpty before after
  | repeated p b => b.least == 0 || p.matchesEmpty before after

def isOver (before after : Option Char) : Regex → Progress → Bool
  | empty, _ => false
  | set _, x => !x.isNowhere
  | look _, _ => false
  | concat p q, x =>
    q.isOver before after x.second ||
      (p.isOver before after x.first && q.matchesEmpty before after)
  | choice p q, x => p.isOver before after x.first || q.isOver before after x.second
  | repeated p _, x =>
    x.entries.any fun r =>
      p.isOver before after r.2 && (r.1.least == 0 || p.matchesEmpty before after)

/-- Goes on by one character, and begins with it anew if the expression may begin here. A repetition
begins where the whole of them does or another one is over; those with the same bounds after them are
one. -/
def advance (before : Option Char) (c : Char) : Regex → (begins : Bool) → Progress → Progress
  | empty, _, _ => .nowhere
  | set s, begins, _ => if begins && s.contains c then .reached else .nowhere
  | look _, _, _ => .nowhere
  | concat p q, begins, x =>
    .both (p.advance before c begins x.first)
      (q.advance before c
        ((begins && p.matchesEmpty before (some c)) || p.isOver before (some c) x.first) x.second)
  | choice p q, begins, x =>
    .both (p.advance before c begins x.first) (q.advance before c begins x.second)
  | repeated p b, begins, x =>
    let ended := x.entries.filter fun r => p.isOver before (some c) r.2
    let starts := (if begins then [b] else []) ++ ended.map (·.1)
    let begun := starts.filterMap fun b => b.next? (p.matchesEmpty before (some c))
    let fresh := begun.eraseDups.filter fun b => !x.entries.any fun r => r.1 == b
    .ofEntries
      (x.entries.map (fun r => (r.1, p.advance before c (begun.contains r.1) r.2)) ++
        fresh.map fun b => (b, p.advance before c true .nowhere))

/-- Whether an expression that has come so far ends in the rest of a text, or begins and ends in it. -/
def occursFrom (p : Regex) (x : Progress) (before : Option Char) : List Char → Bool
  | [] => p.matchesEmpty before none || p.isOver before none x
  | c :: rest =>
    p.matchesEmpty before (some c) || p.isOver before (some c) x ||
      occursFrom p (p.advance before c true x) (some c) rest

def occursIn (p : Regex) (s : String) : Bool := p.occursFrom .nowhere none s.toList

def isWidthless : Regex → Bool
  | empty | look _ => true
  | set _ => false
  | concat p q | choice p q => p.isWidthless && q.isWidthless
  | repeated p b => p.isWidthless || b.most == some 0

/-- How much an expression takes with its repetitions written out, in bytes: 32 for each step of a
machine that reads UTF-8. -/
def size : Regex → Nat
  | empty | look _ => 32
  | set (.points ⟨[(first, last)]⟩) =>
    if first = last then 32 * (Char.ofNat first).utf8Size else if last < 128 then 72 else 1000
  | set s => if s.isAscii then 72 else 1000
  | concat p q => p.size + q.size
  | choice p q => 72 + p.size + q.size
  | repeated p b =>
    if p.isWidthless then p.size
    else 64 + max b.least (b.most.getD 1) * p.size + (b.most.getD 0 - b.least) * 40

end Regex
end CodecBench
