import CodecBench.Decimal.Text
/-!
JSON values and their two texts, one without any blanks and one with a line for each member, indented
by two spaces. Members keep their order. A number that is not finite is written as null.
-/

namespace CodecBench

inductive Json where
  | null
  | number (x : Float)
  | string (s : String)
  | array (items : List Json)
  | object (members : List (String × Json))

namespace Json

/-- Numbers up to sixteen digits before the point, and down to the fifth place after it, are written
without an exponent. -/
def numberManner : Manner := ⟨fun e => -5 ≤ e && e < 16, true, false⟩

def escape (c : Char) : List Char :=
  if c = '"' then ['\\', '"']
  else if c = '\\' then ['\\', '\\']
  else if c = '\n' then ['\\', 'n']
  else if c = '\r' then ['\\', 'r']
  else if c = '\t' then ['\\', 't']
  else if c.toNat = 8 then ['\\', 'b']
  else if c.toNat = 12 then ['\\', 'f']
  else if c.toNat < 32 then
    ['\\', 'u', '0', '0', Nat.digitChar (c.toNat / 16), Nat.digitChar (c.toNat % 16)]
  else [c]

def stringText (s : String) : String :=
  .ofList ('"' :: s.toList.flatMap escape ++ ['"'])

def numberText (x : Float) : String :=
  if x.isFinite then shortestText numberManner x else "null"

mutual

def compact : Json → String
  | .null => "null"
  | .number x => numberText x
  | .string s => stringText s
  | .array items => "[" ++ compactItems items ++ "]"
  | .object members => "\x7b" ++ compactMembers members ++ "\x7d"

def compactItems : List Json → String
  | [] => ""
  | [v] => compact v
  | v :: rest => compact v ++ "," ++ compactItems rest

def compactMembers : List (String × Json) → String
  | [] => ""
  | [(k, v)] => stringText k ++ ":" ++ compact v
  | (k, v) :: rest => stringText k ++ ":" ++ compact v ++ "," ++ compactMembers rest

end

def indent (depth : Nat) : String := .ofList ('\n' :: List.replicate (2 * depth) ' ')

mutual

def pretty (depth : Nat) : Json → String
  | .null => "null"
  | .number x => numberText x
  | .string s => stringText s
  | .array [] => "[]"
  | .array (v :: rest) =>
    "[" ++ indent (depth + 1) ++ pretty (depth + 1) v ++ prettyItems (depth + 1) rest ++
      indent depth ++ "]"
  | .object [] => "\x7b\x7d"
  | .object ((k, v) :: rest) =>
    "\x7b" ++ indent (depth + 1) ++ stringText k ++ ": " ++ pretty (depth + 1) v ++
      prettyMembers (depth + 1) rest ++ indent depth ++ "\x7d"

def prettyItems (depth : Nat) : List Json → String
  | [] => ""
  | v :: rest => "," ++ indent depth ++ pretty depth v ++ prettyItems depth rest

def prettyMembers (depth : Nat) : List (String × Json) → String
  | [] => ""
  | (k, v) :: rest =>
    "," ++ indent depth ++ stringText k ++ ": " ++ pretty depth v ++ prettyMembers depth rest

end

end Json
end CodecBench
