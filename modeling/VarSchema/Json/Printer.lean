import VarSchema.Json.Basic
import VarSchema.Number.Text

/-!
# The text of JSON values

* `Json.quote` : a text between quotation marks; marks, backslashes and control characters are escaped;
* `Json.compact` : a value on one line without blanks;
* `Json.pretty` : a value over several lines, two blanks for each level, empty arrays and objects closed
  at once.
-/

namespace VarSchema

namespace Json

def hexDigit (n : Nat) : Char := (Nat.toDigits 16 (n % 16)).headD '0'

def escape (c : Char) : List Char :=
  if c = '"' then ['\\', '"']
  else if c = '\\' then ['\\', '\\']
  else if c = '\x08' then ['\\', 'b']
  else if c = '\x0c' then ['\\', 'f']
  else if c = '\n' then ['\\', 'n']
  else if c = '\r' then ['\\', 'r']
  else if c = '\t' then ['\\', 't']
  else if c.toNat < 0x20 then ['\\', 'u', '0', '0', hexDigit (c.toNat / 16), hexDigit c.toNat]
  else [c]

def quote (s : String) : String :=
  "\"" ++ String.ofList (s.toList.flatMap escape) ++ "\""

mutual
/-- A value on one line. -/
def compact : Json → String
  | .null => "null"
  | .bool b => if b then "true" else "false"
  | .num n => n.text
  | .str s => quote s
  | .arr items => "[" ++ ",".intercalate (compactItems items) ++ "]"
  | .obj fields => "\x7b" ++ ",".intercalate (compactFields fields) ++ "\x7d"
termination_by structural v => v

def compactItems : List Json → List String
  | [] => []
  | v :: rest => compact v :: compactItems rest
termination_by structural vs => vs

def compactFields : List (String × Json) → List String
  | [] => []
  | (k, v) :: rest => (quote k ++ ":" ++ compact v) :: compactFields rest
termination_by structural es => es
end

/-- The blanks before a line at a level. -/
def indentation (level : Nat) : String := String.ofList (List.replicate (2 * level) ' ')

/-- Lines between two brackets; both brackets at once if there is no line. -/
def block (opening closing : String) (level : Nat) (lines : List String) : String :=
  if lines.isEmpty then opening ++ closing
  else opening ++ "\n" ++ ",\n".intercalate (lines.map (indentation (level + 1) ++ ·)) ++ "\n" ++
    indentation level ++ closing

mutual
/-- A value over several lines, its first line at `level`. -/
def prettyAt : Nat → Json → String
  | level, .arr items => block "[" "]" level (prettyItems (level + 1) items)
  | level, .obj fields => block "\x7b" "\x7d" level (prettyFields (level + 1) fields)
  | _, v => compact v
termination_by structural _ v => v

def prettyItems : Nat → List Json → List String
  | _, [] => []
  | level, v :: rest => prettyAt level v :: prettyItems level rest
termination_by structural _ vs => vs

def prettyFields : Nat → List (String × Json) → List String
  | _, [] => []
  | level, (k, v) :: rest => (quote k ++ ": " ++ prettyAt level v) :: prettyFields level rest
termination_by structural _ es => es
end

def pretty (v : Json) : String := prettyAt 0 v

end Json

end VarSchema
