import VarSchema.ExtendedPattern.Portable
import VarSchema.ExtendedPattern.Reader
import VarSchema.ExtendedPattern.Search

/-!
# Patterns of schemas

* `SchemaPattern` : a pattern that texts are searched for: a plain one, or the action of an extended one;
* `SchemaPattern.ofText?` : the pattern of a text. The text is put into portable form first and then read as an
  extended pattern; if no part needs more, the pattern is plain;
* `SchemaPattern.search` : whether some part of a text matches. Only extended patterns can reach a limit.
-/

namespace VarSchema

/-- A pattern that texts are searched for. -/
inductive SchemaPattern where
  | plain (p : Pattern)
  /-- The action of an extended pattern, and the last group that is referred to. -/
  | extended (a : Action) (groups : Nat)

namespace SchemaPattern

/-- The pattern of an extended pattern; `referred` are the groups that are referred to. -/
def ofExtended? (p : ExtendedPattern) (referred : List Nat) : Option SchemaPattern :=
  if p.isPlain referred then (Pattern.ofChars (p.plainText 0)).toOption.map .plain
  else (p.toAction? referred true).map fun a => .extended a (referred.foldl max 0)

def ofText? (s : String) : Option SchemaPattern := do
  let (p, referred) ← ExtendedPattern.parse? (← portablePattern? s.toList)
  ofExtended? p referred

/-- Whether some part of a text matches. -/
def search (p : SchemaPattern) (s : String) : Except SearchLimit Bool :=
  match p with
  | .plain p => .ok (p.search s)
  | .extended a groups => a.search groups s

/-- Whether some part of a text is found to match. -/
def finds (p : SchemaPattern) (s : String) : Bool := (p.search s).toOption.getD false

end SchemaPattern

end VarSchema
