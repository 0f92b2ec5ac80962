import VarSchema.Text.Shown

/-!
# Names in quotation marks

`quoted s` is a name as messages show it: marks and backslashes are escaped, as are line breaks, tabs and
the null character, and a character that cannot be shown appears as its code point.
-/

namespace VarSchema

def quotedChar (c : Char) : List Char :=
  if c = '"' then ['\\', '"']
  else if c = '\\' then ['\\', '\\']
  else if c = '\n' then ['\\', 'n']
  else if c = '\r' then ['\\', 'r']
  else if c = '\t' then ['\\', 't']
  else if c.toNat = 0 then ['\\', '0']
  else if isShown c then [c]
  else ['\\', 'u', '\x7b'] ++ Nat.toDigits 16 c.toNat ++ ['\x7d']

def quoted (s : String) : String :=
  "\"" ++ String.ofList (s.toList.flatMap quotedChar) ++ "\""

end VarSchema
