import CodecBench.Decimal.Basic
import CodecBench.Document.Reader
/-!
Lexemes of JSON: blanks, words, texts and numerals. The first byte of a lexeme shows what it is and has
been read before. Texts and numerals come in two readings: one gives the value and refuses what has
none; the other passes over the lexeme, checks only its form, and does not tell a numeral that is cut
short by the end of the document from one that is wrong.
-/

namespace CodecBench
namespace Reader

def isBlank (b : UInt8) : Bool :=
  b == ascii ' ' || b == ascii '\n' || b == ascii '\t' || b == ascii '\r'

/-- The next byte that is not blank. -/
def token : Reader UInt8 := do
  let _ ← takeWhile isBlank
  next

def word : List Char → Reader Unit
  | [] => pure ()
  | c :: cs => do
    let b ← next
    if b = ascii c then word cs else fail .malformed

/-- The rest of the word that stands for a value, by its first letter. -/
def wordAfter? (b : UInt8) : Option (List Char) :=
  if b = ascii 'n' then some ['u', 'l', 'l']
  else if b = ascii 't' then some ['r', 'u', 'e']
  else if b = ascii 'f' then some ['a', 'l', 's', 'e']
  else none

def hexValue? (b : UInt8) : Option Nat :=
  if ascii '0' ≤ b ∧ b ≤ ascii '9' then some (b.toNat - 48)
  else if ascii 'a' ≤ b ∧ b ≤ ascii 'f' then some (b.toNat - 87)
  else if ascii 'A' ≤ b ∧ b ≤ ascii 'F' then some (b.toNat - 55)
  else none

def hexadecimal : Reader Nat := do
  let a ← next
  let b ← next
  let c ← next
  let d ← next
  match hexValue? a, hexValue? b, hexValue? c, hexValue? d with
  | some a, some b, some c, some d => pure (((a * 16 + b) * 16 + c) * 16 + d)
  | _, _, _, _ => fail .malformed

def unescape? (b : UInt8) : Option UInt8 :=
  if b = ascii '"' ∨ b = ascii '\\' ∨ b = ascii '/' then some b
  else if b = ascii 'b' then some 8
  else if b = ascii 'f' then some 12
  else if b = ascii 'n' then some 10
  else if b = ascii 'r' then some 13
  else if b = ascii 't' then some 9
  else none

def isLeading (n : Nat) : Bool := 0xD800 ≤ n && n ≤ 0xDBFF

def isTrailing (n : Nat) : Bool := 0xDC00 ≤ n && n ≤ 0xDFFF

def combine (leading trailing : Nat) : Char :=
  Char.ofNat (0x10000 + (leading - 0xD800) * 0x400 + (trailing - 0xDC00))

/-- A numbered escape after its letter. Surrogates come in pairs. -/
def numbered : Reader Char := do
  let n ← hexadecimal
  if isTrailing n then fail .malformed
  else if isLeading n then do
    word ['\\', 'u']
    let m ← hexadecimal
    if isTrailing m then pure (combine n m) else fail .malformed
  else pure (Char.ofNat n)

def escape : Reader Bytes := do
  let b ← next
  match unescape? b with
  | some c => pure [c]
  | none => if b = ascii 'u' then String.utf8EncodeChar <$> numbered else fail .malformed

def skipEscape : Reader Bytes := do
  let b ← next
  match unescape? b with
  | some c => pure [c]
  | none =>
    if b = ascii 'u' then do
      let _ ← hexadecimal
      pure []
    else fail .malformed

/-- Puts what a byte of a text stands for before the bytes so far; nothing at the closing quote. -/
def textStep (escape : Reader Bytes) (bytes : Bytes) (b : UInt8) : Reader (Option Bytes) :=
  if b = ascii '"' then pure none
  else if b = ascii '\\' then do
    let bs ← escape
    pure (some (bs.reverse ++ bytes))
  else if b < 32 then fail .malformed
  else pure (some (b :: bytes))

def text : Reader String := do
  let bytes ← iterate (fun _ => false) (textStep escape) []
  match String.fromUTF8? bytes.reverse.toByteArray with
  | none => fail .malformed
  | some s => pure s

def skipText : Reader Unit := do
  let _ ← iterate (fun _ => false) (textStep skipEscape) []

def isDigit (b : UInt8) : Bool := ascii '0' ≤ b && b ≤ ascii '9'

/-- At least one digit; `atEnd` is the flaw of a document that ends before it. -/
def digits (atEnd : Flaw) : Reader Bytes := do
  let ds ← takeWhile isDigit
  if ds = [] then do
    match ← peek? with
    | none => fail atEnd
    | some _ => fail .malformed
  else pure ds

def digitValue (b : UInt8) : Nat := b.toNat - 48

def digitsValue (ds : Bytes) : Nat := ds.foldl (fun n d => 10 * n + digitValue d) 0

def optionally (bs : Bytes) : Reader Bool := do
  match ← peek? with
  | none => pure false
  | some b =>
    if b ∈ bs then do
      let _ ← next
      pure true
    else pure false

/-- The digits before the point. Zero comes first only alone. -/
def whole (atEnd : Flaw) (b : UInt8) : Reader Bytes := do
  let ds ← if b = ascii '-' then digits atEnd else (b :: ·) <$> takeWhile isDigit
  if ds.head? = some (ascii '0') ∧ ds ≠ [ascii '0'] then fail .malformed else pure ds

def fraction (atEnd : Flaw) : Reader Bytes := do
  if ← optionally [ascii '.'] then digits atEnd else pure []

def exponent (atEnd : Flaw) : Reader Int := do
  if ← optionally [ascii 'e', ascii 'E'] then do
    let below ← optionally [ascii '-']
    let _ ← if below then pure false else optionally [ascii '+']
    let ds ← digits atEnd
    pure (if below then -Int.ofNat (digitsValue ds) else Int.ofNat (digitsValue ds))
  else pure 0

/-- A numeral as its size; the first byte shows its sign. -/
def numeral (atEnd : Flaw) (b : UInt8) : Reader Decimal := do
  let ds ← whole atEnd b
  let places ← fraction atEnd
  let power ← exponent atEnd
  pure (.ofDigits (ds.map digitValue) (places.map digitValue) power)

def number (b : UInt8) : Reader Float := do
  let d ← numeral .truncated b
  match d.toFloat? (b = ascii '-') with
  | none => fail .malformed
  | some x => pure x

def startsNumber (b : UInt8) : Bool := b == ascii '-' || isDigit b

end Reader
end CodecBench
