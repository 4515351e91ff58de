import CodecBench.Text.Unprintable
/-!
Quoted texts: between double quotes, with escapes for quotes, backslashes and all that does not
print. An absent text is told apart from every quoted one.
-/

namespace CodecBench
namespace Quoted

def numbered (c : Char) : List Char :=
  '\\' :: 'u' :: '\x7b' :: Nat.toDigits 16 c.toNat ++ ['\x7d']

def escape (c : Char) : List Char :=
  if c = '\x00' then ['\\', '0']
  else if c = '\t' then ['\\', 't']
  else if c = '\r' then ['\\', 'r']
  else if c = '\n' then ['\\', 'n']
  else if c = '"' then ['\\', '"']
  else if c = '\\' then ['\\', '\\']
  else if isPrintable c then [c]
  else numbered c

end Quoted

def quoted (s : String) : String :=
  .ofList ('"' :: s.toList.flatMap Quoted.escape ++ ['"'])

def quotedOption : Option String → String
  | none => "None"
  | some s => "Some(" ++ quoted s ++ ")"

end CodecBench
