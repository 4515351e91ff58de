import CodecBench.Regex
import CodecBench.Regex.Scan
/-!
The pieces of a pattern that stand alike between brackets and outside of them: single characters and
escapes, under the flags that hold. Properties of characters other than ASCII ones are not known, so
that a pattern which needs them is no pattern: named escapes, word edges and letters of either case are
to be had with the flag `u` off only. With that flag off a set holds ASCII characters only.
-/

namespace CodecBench

/-- The flags `i`, `m`, `s`, `u`, `R` and `x`. -/
structure Flags where
  caseless : Bool
  multiLine : Bool
  dotAll : Bool
  unicode : Bool
  carriageReturn : Bool
  spaced : Bool

namespace Flags

def start : Flags := ⟨false, false, false, true, false, false⟩

/-- The flags after one of them is set. Greed, the flag `U`, makes no difference to what is found. -/
def set? (f : Flags) (value : Bool) : Char → Option Flags
  | 'i' => some { f with caseless := value }
  | 'm' => some { f with multiLine := value }
  | 's' => some { f with dotAll := value }
  | 'u' => some { f with unicode := value }
  | 'R' => some { f with carriageReturn := value }
  | 'x' => some { f with spaced := value }
  | 'U' => some f
  | _ => none

/-- The flags after some letters: those after a minus sign are set off. No letter comes twice, and a
minus sign is not the last. -/
def withLetters? (f : Flags) (letters : List Char) : Option Flags :=
  if letters.Nodup ∧ letters.getLast? ≠ some '-' then do
    let f ← (letters.takeWhile (· ≠ '-')).foldlM (fun f c => f.set? true c) f
    ((letters.dropWhile (· ≠ '-')).drop 1).foldlM (fun f c => f.set? false c) f
  else none

def spacing (f : Flags) : Scan Unit :=
  if f.spaced then modify (Scan.dropSpacing false) else pure ()

def fold (f : Flags) (s : CharSet) : CharSet := if f.caseless then .caseless s else s

def admits (f : Flags) (c : Char) : Bool := if f.unicode then !f.caseless else c.toNat < 128

def character? (f : Flags) (c : Char) : Option Regex :=
  if f.caseless && f.unicode then none
  else some (.set (if c.isAlpha then f.fold (.single c) else .single c))

def anything? (f : Flags) : Option Regex :=
  if f.unicode then
    some (.set (.complement
      (if f.dotAll then ∅
      else if f.carriageReturn then .points ⟨[(0xA, 0xA), (0xD, 0xD)]⟩
      else .single '\n')))
  else none

def lineStart (f : Flags) : Look :=
  if f.multiLine then if f.carriageReturn then .returnLineStart else .lineStart else .textStart

def lineEnd (f : Flags) : Look :=
  if f.multiLine then if f.carriageReturn then .returnLineEnd else .lineEnd else .textEnd

end Flags

inductive Piece where
  | character (c : Char)
  | set (s : CharSet)
  | look (l : Look)

namespace Scan

def hexValue? (c : Char) : Option Nat :=
  if c.isDigit then some (c.toNat - 48)
  else if 'a' ≤ c ∧ c ≤ 'f' then some (c.toNat - 87)
  else if 'A' ≤ c ∧ c ≤ 'F' then some (c.toNat - 55)
  else none

def spacedWhile (f : Flags) (p : Char → Bool) : Scan (List Char) :=
  repeatedly (β := List Char)
    (fun cs => do
      match ← peek? with
      | none => return .inr cs.reverse
      | some c =>
        if p c then
          let _ ← next
          f.spacing
          return .inl (c :: cs)
        else return .inr cs.reverse) []

def spacedTimes (f : Flags) : Nat → Scan (List Char)
  | 0 => pure []
  | n + 1 => do
    let c ← next
    f.spacing
    return c :: (← spacedTimes f n)

def numbered? (ds : List Char) : Option Char := do
  guard (ds ≠ [])
  let n := (← ds.mapM hexValue?).foldl (fun n d => 16 * n + d) 0
  if n.isValidChar then some (Char.ofNat n) else none

/-- A numbered escape after its letter: a number between braces, or so many digits. A byte that is not
ASCII is no character without the flag `u`. -/
def numbered (f : Flags) (letter : Char) : Scan Char := do
  f.spacing
  if ← accept '{' then
    f.spacing
    let c ← numbered? (← spacedWhile f fun c => (hexValue? c).isSome)
    expect '}'
    f.spacing
    return c
  else
    let c ← numbered? (← spacedTimes f (if letter = 'x' then 2 else if letter = 'u' then 4 else 8))
    guard (letter ≠ 'x' ∨ f.unicode ∨ c.toNat < 128)
    return c

def control? : Char → Option Char
  | 'a' => some '\x07'
  | 'f' => some '\x0c'
  | 'n' => some '\n'
  | 'r' => some '\r'
  | 't' => some '\t'
  | 'v' => some '\x0b'
  | _ => none

def edges : List (String × Look) :=
  [("start", .wordStart), ("end", .wordEnd), ("start-half", .noWordBefore), ("end-half", .noWordAfter)]

/-- What follows a word edge: the kind of the edge between braces, unless they hold a count. -/
def edge (f : Flags) : Scan Look := do
  let rest ← get
  if ← accept '{' then
    f.spacing
    let some c ← peek? | failure
    if c.isAlpha || c = '-' then
      let name ← spacedWhile f fun c => c.isAlpha || c = '-'
      expect '}'
      edges.lookup (.ofList name)
    else
      set rest
      return .wordEdge
  else return .wordEdge

def escapedSet? : Char → Option CodePoints
  | 'd' => some CharSet.digits
  | 's' => some CharSet.spaces
  | 'w' => some CharSet.wordCharacters
  | _ => none

def escapedLook? : Char → Option Look
  | 'B' => some .noWordEdge
  | '<' => some .wordStart
  | '>' => some .wordEnd
  | _ => none

def escape (f : Flags) : Scan Piece := do
  let c ← next
  if c = 'x' ∨ c = 'u' ∨ c = 'U' then return .character (← numbered f c)
  else if c = 'A' then return .look .textStart
  else if c = 'z' then return .look .textEnd
  else if c = 'b' then do
    let l ← edge f
    guard !f.unicode
    return .look l
  else
    match control? c, escapedSet? c, escapedLook? c with
    | some d, _, _ => return .character d
    | _, some s, _ => do
      guard !f.unicode
      return .set (.points s)
    | _, _, some l => do
      guard !f.unicode
      return .look l
    | none, none, none => do
      guard (c.toNat < 128 ∧ !c.isAlphanum)
      return .character c

def count (f : Flags) : Scan Nat := do
  let _ ← takeWhile isBlank
  let ds ← spacedWhile f Char.isDigit
  let _ ← takeWhile isBlank
  let n := ds.foldl (fun n d => 10 * n + (d.toNat - 48)) 0
  guard (ds ≠ [] ∧ n < 1 <<< 32)
  return n

def bounds (f : Flags) : Scan Bounds := do
  f.spacing
  let least ← count f
  if ← accept ',' then
    f.spacing
    if ← accept '}' then return ⟨least, none⟩
    else
      let most ← count f
      expect '}'
      guard (least ≤ most)
      return ⟨least, some most⟩
  else
    expect '}'
    return ⟨least, some least⟩

end Scan
end CodecBench
