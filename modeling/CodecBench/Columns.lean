import CodecBench.Columns.Emoji
import CodecBench.Columns.Wide
import CodecBench.Columns.Zero
/-!
Columns: how many columns of a terminal a text takes. Characters take none, one or two; but an emoji
sequence takes the two of one emoji, some scripts join letters into one sign, and a carriage return
before a line feed takes none. The text is measured from its end, so that what a character takes may
depend on what follows it.
-/

namespace CodecBench
namespace Columns

/-- Signs that join with a letter before them. Marks without a look of their own may stand between. -/
inductive Ligature where
  | lamed
  | ya
  | vowelAndYa
  | consonant
  | joinedConsonant
  | tone
  | orkhonI
  | coengLetter
deriving DecidableEq

/-- The part of what follows that a character can join. -/
inductive Follower where
  | plain
  | lineFeed
  | skinTone
  | regional
  | regionals
  | emoji
  | joinedEmoji
  | joinedKeycap
  | joinedRegional
  | joinedRegionalsEven
  | joinedRegionalsOdd
  | tagEnd
  | tagLetters (count : Nat)
  | tagDigits (count : Nat)
  | vowelSignE
  | vowelSignAi
  | alef
  | ligature (sign : Ligature) (joined : Bool)
deriving DecidableEq

structure Selectors where
  emoji : Bool
  text : Bool
  wideQuote : Bool
deriving DecidableEq

namespace Selectors

def none : Selectors := ⟨false, false, false⟩

def union (s t : Selectors) : Selectors :=
  ⟨s.emoji || t.emoji, s.text || t.text, s.wideQuote || t.wideQuote⟩

def ofChar? (c : Char) : Option Selectors :=
  if c.toNat = 0xFE0F then some ⟨true, false, false⟩
  else if c.toNat = 0xFE0E then some ⟨false, true, false⟩
  else if c.toNat = 0xFE01 then some ⟨false, false, true⟩
  else Option.none

end Selectors

structure Context where
  follower : Follower
  selectors : Selectors
deriving DecidableEq

def within (lo hi : Nat) (c : Char) : Bool := lo ≤ c.toNat && c.toNat ≤ hi

def isCoengLetter (c : Char) : Bool :=
  within 0x1780 0x1782 c || within 0x1784 0x1787 c || within 0x1789 0x178C c ||
  within 0x178E 0x1793 c || within 0x1795 0x1798 c || within 0x179B 0x179D c ||
  within 0x17A0 0x17A0 c || within 0x17A2 0x17A2 c || within 0x17A7 0x17A7 c ||
  within 0x17AB 0x17AC c || within 0x17AF 0x17AF c

def isAlef (c : Char) : Bool :=
  within 0x622 0x623 c || within 0x625 0x625 c || within 0x627 0x627 c || within 0x671 0x673 c ||
  within 0x675 0x675 c || within 0x773 0x774 c || within 0x870 0x882 c

def isLam (c : Char) : Bool :=
  within 0x644 0x644 c || within 0x6B5 0x6B8 c || within 0x76A 0x76A c || within 0x8A6 0x8A6 c ||
  within 0x8C7 0x8C7 c

def isTifinagh (c : Char) : Bool := within 0x2D31 0x2D65 c || within 0x2D6F 0x2D6F c

def isRegional (c : Char) : Bool := within 0x1F1E6 0x1F1FF c

def isSkinTone (c : Char) : Bool := within 0x1F3FB 0x1F3FF c

/-- What a character takes by itself, and what it is for a character before it. -/
def lone (c : Char) : Nat × Follower :=
  if c.toNat < 0x300 then (if c.toNat = 0xAD then 0 else 1, .plain)
  else if isAlef c then (1, .alef)
  else if c.toNat = 0x5DC then (1, .ligature .lamed false)
  else if isCoengLetter c then (1, .ligature .coengLetter true)
  else if c.toNat = 0x17A4 then (2, .plain)
  else if c.toNat = 0x17D8 then (3, .plain)
  else if c.toNat = 0x1A10 then (1, .ligature .ya false)
  else if isTifinagh c then (1, .ligature .consonant false)
  else if within 0xA4FC 0xA4FD c then (1, .ligature .tone true)
  else if c.toNat = 0x10C03 then (1, .ligature .orkhonI false)
  else if c.toNat = 0x16D67 then (1, .vowelSignE)
  else if c.toNat = 0x16D68 then (1, .vowelSignAi)
  else if isRegional c then (1, .regional)
  else if isSkinTone c then (2, .skinTone)
  else if emojiByDefault.contains c then (2, .emoji)
  else if zeroWidths.contains c then (0, .plain)
  else if wides.contains c then (2, .plain)
  else (1, .plain)

/-- The letter that a sign joins, and what the two take beyond the columns of the sign. -/
def ligated (sign : Ligature) (joined : Bool) (c : Char) : Option (Int × Follower) :=
  match sign with
  | .lamed => if joined && c.toNat == 0x5D0 then some (0, .plain) else none
  | .ya => if joined && c.toNat == 0x1A17 then some (0, .ligature .vowelAndYa true) else none
  | .vowelAndYa => if c.toNat = 0x1A15 then some (0, .plain) else none
  | .consonant =>
    if c.toNat = 0x2D7F then some (1, .ligature .joinedConsonant true)
    else if joined && isTifinagh c then some (0, .plain)
    else none
  | .joinedConsonant => if isTifinagh c then some (-1, .plain) else none
  | .tone => if within 0xA4F8 0xA4FB c then some (0, .plain) else none
  | .orkhonI => if joined && c.toNat == 0x10C32 then some (0, .plain) else none
  | .coengLetter => if c.toNat = 0x17D2 then some (-1, .plain) else none

/-- The emoji sequences that a joiner ties to what follows: flags, keycaps, skin tones and tags. -/
def afterJoiner (c : Char) : Option (Int × Follower) :=
  if c.toNat = 0x20E3 then some (0, .joinedKeycap)
  else if isRegional c then some (1, .joinedRegional)
  else if isSkinTone c then some (0, .skinTone)
  else if c.toNat = 0xE007F then some (0, .tagEnd)
  else if emojiByDefault.contains c then some (0, .emoji)
  else none

def isTagLetter (c : Char) : Bool := within 0xE0061 0xE007A c

def isTagDigit (c : Char) : Bool := within 0xE0030 0xE0039 c

def isBlackFlag (c : Char) : Bool := c.toNat == 0x1F3F4

def beforeJoiner (c : Char) : Option (Int × Follower) :=
  if c.toNat = 0x200D then some (0, .joinedEmoji) else none

def joined? (next : Follower) (c : Char) : Option (Int × Follower) :=
  match next with
  | .alef =>
    if isLam c then some (0, .plain)
    else if joiningTransparents.contains c then some (0, .alef)
    else none
  | .ligature sign joined =>
    if c.toNat = 0x200D then some (0, .ligature sign true)
    else if ignorableMarks.contains c then some (0, next)
    else ligated sign joined c
  | .skinTone => if emojiModifierBases.contains c then some (0, .emoji) else beforeJoiner c
  | .regional => if isRegional c then some (1, .regionals) else none
  | .regionals => if isRegional c then some (1, .regionals) else beforeJoiner c
  | .emoji => beforeJoiner c
  | .joinedEmoji => afterJoiner c
  | .joinedRegional => if isRegional c then some (-1, .joinedRegionalsEven) else none
  | .joinedRegionalsEven => if isRegional c then some (3, .joinedRegionalsOdd) else beforeJoiner c
  | .joinedRegionalsOdd => if isRegional c then some (-1, .joinedRegionalsEven) else beforeJoiner c
  | .tagEnd =>
    if isTagLetter c then some (0, .tagLetters 1)
    else if isTagDigit c then some (0, .tagDigits 1)
    else none
  | .tagLetters n =>
    if isTagLetter c && n < 6 then some (0, .tagLetters (n + 1))
    else if isTagDigit c && n < 5 then some (0, .tagDigits 1)
    else if isBlackFlag c && 3 ≤ n then some (0, .emoji)
    else none
  | .tagDigits n =>
    if isTagDigit c && n < 3 then some (0, .tagDigits (n + 1))
    else if isBlackFlag c && n == 3 then some (0, .emoji)
    else none
  | .vowelSignE =>
    if c.toNat = 0x16D63 then some (0, .plain)
    else if c.toNat = 0x16D67 then some (0, .vowelSignAi)
    else if c.toNat = 0x16D68 then some (1, .vowelSignE)
    else if c.toNat = 0x16D69 then some (0, .plain)
    else none
  | .vowelSignAi => if c.toNat = 0x16D63 then some (0, .plain) else none
  | .plain | .lineFeed | .joinedKeycap => none

namespace Context

def plain : Context := ⟨.plain, .none⟩

def joinsLetters (x : Context) : Bool :=
  match x.follower with
  | .alef | .ligature _ _ => true
  | _ => false

def joinsEmoji (x : Context) : Bool :=
  match x.follower with
  | .joinedEmoji | .joinedKeycap => true
  | _ => false

/-- Puts a selector before what follows. Before letters that join it goes with the selectors that are
there; before anything else it stands alone, and what it cannot stand before is lost. -/
def select (x : Context) (s : Selectors) : Context :=
  if x.joinsLetters then ⟨x.follower, x.selectors.union s⟩
  else if s.emoji && x.joinsEmoji then ⟨x.follower, s⟩
  else ⟨.plain, s⟩

def withoutEmoji (x : Context) : Context :=
  if x.selectors.emoji then
    if x.joinsLetters then ⟨x.follower, { x.selectors with emoji := false }⟩ else plain
  else x

def unselect (x : Context) : Context :=
  if x.selectors = .none then x
  else if x.joinsLetters then ⟨x.follower, .none⟩
  else plain

end Context

def isCurlyQuote (c : Char) : Bool := within 0x2018 0x2019 c || within 0x201C 0x201D c

def stepUnselected (c : Char) (next : Context) : Int × Context :=
  if c.toNat ≤ 0xA0 then
    if c = '\n' then (1, ⟨.lineFeed, .none⟩)
    else if c = '\r' && next.follower == .lineFeed then (0, .plain)
    else (1, .plain)
  else
    match Selectors.ofChar? c with
    | some s => (0, next.select s)
    | none =>
      if next.selectors.text && textStarters.contains c then (1, .plain)
      else if next.selectors.wideQuote && isCurlyQuote c then (2, .plain)
      else
        match joined? next.unselect.follower c with
        | some (n, follower) => (n, ⟨follower, .none⟩)
        | none => ((lone c).1, ⟨(lone c).2, .none⟩)

def step (c : Char) (next : Context) : Int × Context :=
  if next.selectors.emoji && emojiStarters.contains c then
    (if next.joinsEmoji then 0 else 2, ⟨.emoji, .none⟩)
  else stepUnselected c next.withoutEmoji

def measure : List Char → Int × Context
  | [] => (0, .plain)
  | c :: rest =>
    let (total, next) := measure rest
    let (n, context) := step c next
    (n + total, context)

end Columns

def columns (s : String) : Nat := (Columns.measure s.toList).1.toNat

end CodecBench
