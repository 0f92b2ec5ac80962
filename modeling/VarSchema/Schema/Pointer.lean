/-!
# Pointers into JSON values

A pointer is a text of segments, each behind a slash. Inside a segment a tilde is written `~0` and a slash
`~1`.

* `Pointer.escape`, `Pointer.unescape` : a segment as it is written, and back;
* `Pointer.push` : a pointer one segment deeper; `Pointer.first?` : the first segment of a pointer.
-/

namespace VarSchema

namespace Pointer

/-- Replaces each occurrence of two characters by one, from left to right. -/
def replacePair (a b c : Char) : List Char → List Char
  | [] => []
  | [x] => [x]
  | x :: y :: rest =>
    if x = a ∧ y = b then c :: replacePair a b c rest else x :: replacePair a b c (y :: rest)

/-- Replaces each occurrence of a character by two. -/
def replaceChar (a b c : Char) (cs : List Char) : List Char :=
  cs.flatMap fun x => if x = a then [b, c] else [x]

/-- A segment as it is written: first each tilde, then each slash is escaped. -/
def escape (segment : String) : String :=
  String.ofList (replaceChar '/' '~' '1' (replaceChar '~' '~' '0' segment.toList))

/-- The segment of a written one: first slashes, then tildes are restored. -/
def unescape (written : List Char) : String :=
  String.ofList (replacePair '~' '0' '~' (replacePair '~' '1' '/' written))

/-- A pointer one segment deeper. -/
def push (pointer segment : String) : String := pointer ++ "/" ++ escape segment

/-- The first segment of a pointer that starts with a slash. -/
def first? (pointer : String) : Option String :=
  match pointer.toList with
  | '/' :: rest => some (unescape (rest.takeWhile (· ≠ '/')))
  | _ => none

end Pointer

end VarSchema
