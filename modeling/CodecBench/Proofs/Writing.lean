import CodecBench.Document
import CodecBench.Proofs.Utf8
import Mathlib.Data.List.Forall2
import Mathlib.Data.Rat.Defs
/-!
How results documents may be written. A document is a row of tokens with blanks between them (`Spaced`). A token is a
mark, a word, a text or a numeral; a text has many spellings (`SpellsText`), and which numerals denote a time is a
parameter. The tokens of a record are those of an object, whose members may come in any order and among any others,
or those of an array (`WritesRecord`).
-/

namespace CodecBench

abbrev Token := Bytes

def mark (c : Char) : Token := [ascii c]

def IsBlanks (s : Bytes) : Prop := ∀ b ∈ s, b ∈ [' ', '\t', '\n', '\r'].map ascii

/-- Bytes that are these tokens, with any blanks before, between and after them. -/
inductive Spaced : List Token → Bytes → Prop
  | done {blanks : Bytes} : IsBlanks blanks → Spaced [] blanks
  | token {blanks s : Bytes} {t : Token} {ts : List Token} :
    IsBlanks blanks → Spaced ts s → Spaced (t :: ts) (blanks ++ (t ++ s))

theorem spaced_flatten (ts : List Token) : Spaced ts ts.flatten := by
  have hnone : IsBlanks [] := nofun
  induction ts with
  | nil => exact .done hnone
  | cons t ts ih => exact .token hnone ih

def IsHexDigit (n : Nat) (b : UInt8) : Prop :=
  n < 16 ∧ (b = ascii n.digitChar ∨ b = ascii n.digitChar.toUpper)

instance (n : Nat) (b : UInt8) : Decidable (IsHexDigit n b) := inferInstanceAs (Decidable (_ ∧ _))

inductive IsHex : Nat → Bytes → Prop
  | digits {k l m n : Nat} {a b c d : UInt8} : IsHexDigit k a → IsHexDigit l b → IsHexDigit m c → IsHexDigit n d →
    IsHex (((k * 16 + l) * 16 + m) * 16 + n) [a, b, c, d]

def shortEscapes : List (Char × Char) :=
  [('"', '"'), ('\\', '\\'), ('/', '/'), ('\x08', 'b'), ('\x0c', 'f'), ('\n', 'n'), ('\r', 'r'), ('\t', 't')]

/-- How a character may stand in a text: as it is, or as an escape. A character that four digits cannot number takes
two numbers, its surrogates. -/
inductive SpellsChar : Char → Bytes → Prop
  | literal {c : Char} : 32 ≤ c.toNat → c ≠ '"' → c ≠ '\\' → SpellsChar c (String.utf8EncodeChar c)
  | short {c letter : Char} : (c, letter) ∈ shortEscapes → SpellsChar c [ascii '\\', ascii letter]
  | numbered {c : Char} {digits : Bytes} : IsHex c.toNat digits → SpellsChar c (ascii '\\' :: ascii 'u' :: digits)
  | pair {c : Char} {high low : Nat} {digits digits' : Bytes} : high < 0x400 → low < 0x400 →
    c.toNat = 0x10000 + 0x400 * high + low → IsHex (0xD800 + high) digits → IsHex (0xDC00 + low) digits' →
    SpellsChar c (ascii '\\' :: ascii 'u' :: digits ++ ascii '\\' :: ascii 'u' :: digits')

def SpellsText (s : String) (t : Token) : Prop :=
  ∃ parts : List Bytes, List.Forall₂ SpellsChar s.toList parts ∧ t = ascii '"' :: parts.flatten ++ [ascii '"']

def plainText (s : String) : Token := ascii '"' :: utf8Bytes s ++ [ascii '"']

theorem spellsText_plain {s : String} (h : s.toList.all fun c => 32 ≤ c.toNat ∧ c ≠ '"' ∧ c ≠ '\\') :
    SpellsText s (plainText s) := by
  refine ⟨s.toList.map String.utf8EncodeChar, ?_, by rw [plainText, utf8Bytes, List.flatMap_def]⟩
  rw [List.forall₂_map_right_iff, List.forall₂_same]
  intro c hc
  obtain ⟨hle, hquote, hslash⟩ := of_decide_eq_true (List.all_eq_true.1 h c hc)
  exact .literal hle hquote hslash

/-- A part of a text that nobody asks for: it need not stand for a character. -/
inductive IsPart : Bytes → Prop
  | literal {b : UInt8} : 32 ≤ b → b ≠ ascii '"' → b ≠ ascii '\\' → IsPart [b]
  | short {c letter : Char} : (c, letter) ∈ shortEscapes → IsPart [ascii '\\', ascii letter]
  | numbered {n : Nat} {digits : Bytes} : IsHex n digits → IsPart (ascii '\\' :: ascii 'u' :: digits)

def IsText (t : Token) : Prop :=
  ∃ parts : List Bytes, (∀ p ∈ parts, IsPart p) ∧ t = ascii '"' :: parts.flatten ++ [ascii '"']

structure NumeralPower where
  capital : Bool
  /-- Minus, plus, or neither. -/
  sign : Option Bool
  digits : List (Fin 10)
  digits_ne : digits ≠ []

/-- A numeral by its parts. Without places it has no point, and zero comes first only alone. -/
structure Numeral where
  negative : Bool
  whole : List (Fin 10)
  places : List (Fin 10)
  power : Option NumeralPower
  whole_ne : whole ≠ []
  zero_alone : whole.head? = some 0 → whole = [0]

def digitByte (d : Fin 10) : UInt8 := ascii (Nat.digitChar d)

def NumeralPower.signBytes (p : NumeralPower) : Bytes :=
  match p.sign with
  | some true => [ascii '-']
  | some false => [ascii '+']
  | none => []

def NumeralPower.bytes (p : NumeralPower) : Bytes :=
  (if p.capital then ascii 'E' else ascii 'e') :: (p.signBytes ++ p.digits.map digitByte)

def ofDecimalDigits (ds : List (Fin 10)) : Nat := ds.foldl (fun n d => 10 * n + d.val) 0

def NumeralPower.exponent (p : NumeralPower) : Int :=
  if p.sign = some true then -ofDecimalDigits p.digits else ofDecimalDigits p.digits

namespace Numeral

def placesBytes (n : Numeral) : Bytes := if n.places = [] then [] else ascii '.' :: n.places.map digitByte

def powerBytes (n : Numeral) : Bytes :=
  match n.power with
  | none => []
  | some p => p.bytes

def bytes (n : Numeral) : Token :=
  (if n.negative then [ascii '-'] else []) ++ (n.whole.map digitByte ++ (n.placesBytes ++ n.powerBytes))

def exponent (n : Numeral) : Int :=
  match n.power with
  | none => 0
  | some p => p.exponent

def value (n : Numeral) : ℚ :=
  (if n.negative then -1 else 1) * ofDecimalDigits (n.whole ++ n.places) *
    10 ^ (n.exponent - n.places.length)

def decimal (n : Numeral) : Decimal := .ofDigits (n.whole.map (·.val)) (n.places.map (·.val)) n.exponent

def double? (n : Numeral) : Option Float := n.decimal.toFloat? n.negative

end Numeral

def separated : List (List Token) → List Token
  | [] => []
  | item :: items => item ++ items.flatMap (mark ',' :: ·)

def arrayOf (values : List (List Token)) : List Token := mark '[' :: separated values ++ [mark ']']

def memberOf (m : Token × List Token) : List Token := m.1 :: mark ':' :: m.2

def objectOf (members : List (Token × List Token)) : List Token :=
  mark '\x7b' :: separated (members.map memberOf) ++ [mark '\x7d']

inductive IsValue : List Token → Prop
  | word {w : String} : w ∈ ["null", "true", "false"] → IsValue [utf8Bytes w]
  | numeral (n : Numeral) : IsValue [n.bytes]
  | text {t : Token} : IsText t → IsValue [t]
  | array {values : List (List Token)} : (∀ v ∈ values, IsValue v) → IsValue (arrayOf values)
  | object {members : List (Token × List Token)} :
    (∀ m ∈ members, IsText m.1) → (∀ m ∈ members, IsValue m.2) → IsValue (objectOf members)

structure Member where
  key : String
  spelling : Token
  value : List Token

/-- The tokens of a record that has these keys in this order: an object with each needed key, no key twice and any
other members among them, or an array of values up to the last that is needed or further. -/
inductive WritesRecord (keys : List String) (gives : String → List Token → Prop) (needs : String → Prop) :
    List Token → Prop
  | object (ms : List Member) (spelled : ∀ m ∈ ms, SpellsText m.key m.spelling)
    (given : ∀ m ∈ ms, m.key ∈ keys → gives m.key m.value) (other : ∀ m ∈ ms, m.key ∉ keys → IsValue m.value)
    (once : ((ms.map (·.key)).filter (· ∈ keys)).Nodup) (present : ∀ k, needs k → k ∈ ms.map (·.key)) :
    WritesRecord keys gives needs (objectOf (ms.map fun m => (m.spelling, m.value)))
  | array {values : List (List Token)} (given : List.Forall₂ gives (keys.take values.length) values)
    (present : ∀ k, needs k → k ∈ keys.take values.length) : WritesRecord keys gives needs (arrayOf values)

def GivesText (s : String) (v : List Token) : Prop := ∃ t, v = [t] ∧ SpellsText s t

/-- What is absent may be given as null. -/
inductive GivesOptional {α : Type} (gives : α → List Token → Prop) : Option α → List Token → Prop
  | absent : GivesOptional gives none [utf8Bytes "null"]
  | present {a : α} {v : List Token} : gives a v → GivesOptional gives (some a) v

section Entries
variable (denotes : Numeral → Float → Prop)

def GivesNumber (x : Float) (v : List Token) : Prop := ∃ n : Numeral, v = [n.bytes] ∧ denotes n x

def Entry.keys : List String := ["name", "cpu_time", "time_unit", "label", "run_type"]

inductive GivesField (e : Entry) : String → List Token → Prop
  | name {v : List Token} : GivesText e.name v → GivesField e "name" v
  | cpuTime {v : List Token} : GivesOptional (GivesNumber denotes) e.cpuTime v → GivesField e "cpu_time" v
  | timeUnit {v : List Token} : GivesOptional GivesText e.timeUnit v → GivesField e "time_unit" v
  | label {v : List Token} : GivesOptional GivesText e.label v → GivesField e "label" v
  | runType {v : List Token} : GivesOptional GivesText e.runType v → GivesField e "run_type" v

inductive Entry.Needs (e : Entry) : String → Prop
  | name : e.Needs "name"
  | cpuTime : e.cpuTime.isSome → e.Needs "cpu_time"
  | timeUnit : e.timeUnit.isSome → e.Needs "time_unit"
  | label : e.label.isSome → e.Needs "label"
  | runType : e.runType.isSome → e.Needs "run_type"

def WritesEntry (e : Entry) : List Token → Prop := WritesRecord Entry.keys (GivesField denotes e) e.Needs

def WritesEntries (es : List Entry) (ts : List Token) : Prop :=
  ∃ values, List.Forall₂ (WritesEntry denotes) es values ∧ ts = arrayOf values

/-- A document may lack its entries if there are none. -/
def WritesDocument (es : List Entry) : List Token → Prop :=
  WritesRecord ["benchmarks"] (fun _ => WritesEntries denotes es) fun k => k = "benchmarks" ∧ es ≠ []

/-- The bytes are a document of these entries, where a numeral may stand for a double that it denotes. -/
def Writes (es : List Entry) (s : Bytes) : Prop := ∃ ts, WritesDocument denotes es ts ∧ Spaced ts s

end Entries
end CodecBench
