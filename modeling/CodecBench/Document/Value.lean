import CodecBench.Document.Lexeme
/-!
Values of JSON, each read from its first byte on. A value of no interest is passed over, however deep;
one of interest is a text, a number, an array or an object, and anything else in its place is a flaw of
its own kind, provided that its first lexeme is well formed.
-/

namespace CodecBench
namespace Reader
variable {α σ : Type}

def colon : Reader Unit := do
  let b ← token
  if b = ascii ':' then pure () else fail .malformed

inductive Bracket where
  | array
  | object
deriving DecidableEq, Repr

def Bracket.closing : Bracket → UInt8
  | .array => ascii ']'
  | .object => ascii '\x7d'

/-- What comes next inside the innermost bracket: its first item or its end, a value, or what follows a
value. -/
inductive Due where
  | first
  | value
  | separator
deriving DecidableEq, Repr

def valueEnded (opened : List Bracket) : Option (List Bracket × Due) :=
  if opened = [] then none else some (opened, .separator)

/-- Passes over a value up to the opening bracket, or as a whole if it has none. -/
def skipOpening (opened : List Bracket) (b : UInt8) : Reader (Option (List Bracket × Due)) :=
  match wordAfter? b with
  | some w => do
    word w
    pure (valueEnded opened)
  | none =>
    if startsNumber b then do
      let _ ← numeral .malformed b
      pure (valueEnded opened)
    else if b = ascii '"' then do
      skipText
      pure (valueEnded opened)
    else if b = ascii '[' then pure (some (.array :: opened, .first))
    else if b = ascii '\x7b' then pure (some (.object :: opened, .first))
    else fail .malformed

def skipKey (b : UInt8) : Reader Unit :=
  if b = ascii '"' then do
    skipText
    colon
  else fail .malformed

def skipStep : List Bracket × Due → UInt8 → Reader (Option (List Bracket × Due))
  | (opened, .value), b => skipOpening opened b
  | ([], _), _ => pure none
  | (bracket :: opened, .first), b =>
    if b = bracket.closing then pure (valueEnded opened)
    else
      match bracket with
      | .array => skipOpening (.array :: opened) b
      | .object => do
        skipKey b
        pure (some (.object :: opened, .value))
  | (bracket :: opened, .separator), b =>
    if b = bracket.closing then pure (valueEnded opened)
    else if b = ascii ',' then
      match bracket with
      | .array => pure (some (.array :: opened, .value))
      | .object => do
        skipKey (← token)
        pure (some (.object :: opened, .value))
    else fail .malformed

def skipValue (b : UInt8) : Reader Unit := do
  match ← skipOpening [] b with
  | none => pure ()
  | some st =>
    let _ ← iterate isBlank skipStep st

def refuse (b : UInt8) : Reader α :=
  match wordAfter? b with
  | some w => do
    word w
    fail .unsuitable
  | none =>
    if startsNumber b then do
      let _ ← number b
      fail .unsuitable
    else if b = ascii '"' then do
      let _ ← text
      fail .unsuitable
    else if b = ascii '[' ∨ b = ascii '\x7b' then fail .unsuitable
    else fail .malformed

def textValue (b : UInt8) : Reader String := if b = ascii '"' then text else refuse b

def numberValue (b : UInt8) : Reader Float := if startsNumber b then number b else refuse b

def nullable (value : UInt8 → Reader α) (b : UInt8) : Reader (Option α) :=
  if b = ascii 'n' then do
    word ['u', 'l', 'l']
    pure none
  else some <$> value b

/-- An item of an array, added to the state so far; commas stand between items. Where the state has no
room for another item a comma is a flaw. -/
def itemStep (room : σ → Bool) (item : σ → UInt8 → Reader σ) (st : Bool × σ) (b : UInt8) :
    Reader (Option (Bool × σ)) :=
  if b = ascii ']' then pure none
  else if st.1 then (fun s => some (false, s)) <$> item st.2 b
  else if b = ascii ',' && room st.2 then do
    let b ← token
    if b = ascii ']' then fail .malformed else (fun s => some (false, s)) <$> item st.2 b
  else fail .malformed

def items (room : σ → Bool) (item : σ → UInt8 → Reader σ) (st : σ) : Reader σ :=
  Prod.snd <$> iterate isBlank (itemStep room item) (true, st)

def list (value : UInt8 → Reader α) : Reader (List α) :=
  List.reverse <$> items (fun _ => true) (fun vs b => (· :: vs) <$> value b) []

/-- The fields of an array after its opening bracket, each with a reader of its own; the last ones may be
missing. -/
def sequence (fields : List (σ → UInt8 → Reader σ)) (st : σ) : Reader σ :=
  Prod.snd <$> items (fun s => !s.1.isEmpty)
    (fun s b =>
      match s.1 with
      | [] => fail .malformed
      | field :: rest => (fun st => (rest, st)) <$> field s.2 b)
    (fields, st)

def keyed (member : String → σ → Reader σ) (st : σ) (b : UInt8) : Reader (Option (Bool × σ)) :=
  if b = ascii '"' then do
    let key ← text
    (fun s => some (false, s)) <$> member key st
  else fail .malformed

def memberStep (member : String → σ → Reader σ) (st : Bool × σ) (b : UInt8) :
    Reader (Option (Bool × σ)) :=
  if b = ascii '\x7d' then pure none
  else if st.1 then keyed member st.2 b
  else if b = ascii ',' then do
    keyed member st.2 (← token)
  else fail .malformed

def members (member : String → σ → Reader σ) (st : σ) : Reader σ :=
  Prod.snd <$> iterate isBlank (memberStep member) (true, st)

/-- The value of a member, after its key. A key may be given once. -/
def memberValue (former : Option α) (value : UInt8 → Reader α) : Reader α :=
  match former with
  | some _ => fail .unsuitable
  | none => do
    colon
    value (← token)

def skipMember : Reader Unit := do
  colon
  skipValue (← token)

end Reader
end CodecBench
