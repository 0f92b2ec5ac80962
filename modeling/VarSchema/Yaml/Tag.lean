import VarSchema.Text.Digit

/-!
# Tags of YAML texts

* `Tag` : the tag of a node; `Tag.meaning` : what it says about a scalar;
* `Tag.Handles` : what the handles of tags stand for; `Tag.Handles.initial` : the handles of every document;
* `Tag.read?` : the tag behind an exclamation mark: `!<uri>`, a handle and a suffix, or a local name;
* `Directive.read?` : what stands behind the `%` of a directive.

Escapes spell single bytes of a tag, as many as the first of them says belong to a character. A byte zero ends
what is read.
-/

namespace VarSchema

namespace Yaml

structure Tag where
  bytes : List UInt8
deriving DecidableEq

namespace Tag

def bytesOf (s : String) : List UInt8 := s.toUTF8.toList

/-- The tag `!`, which leaves a scalar untagged. -/
def bare : Tag := ⟨bytesOf "!"⟩

/-- What tags of the common schema begin with. -/
def common : List UInt8 := bytesOf "tag:yaml.org,2002:"

/-- What a tag says about a scalar. -/
inductive Meaning where
  /-- A local tag: the name of an alternative. -/
  | name (s : String)
  | null
  | boolean
  | whole
  | float
  /-- A text, since nothing else is known. -/
  | text
  /-- A local tag that is no text says nothing. -/
  | nothing

def meaning (t : Tag) : Meaning :=
  match t.bytes with
  | 0x21 :: rest =>
    match String.fromUTF8? ⟨(if rest.isEmpty then t.bytes else rest).toArray⟩ with
    | some s => .name s
    | none => .nothing
  | bytes =>
    if bytes = common ++ bytesOf "null" then .null
    else if bytes = common ++ bytesOf "bool" then .boolean
    else if bytes = common ++ bytesOf "int" then .whole
    else if bytes = common ++ bytesOf "float" then .float
    else .text

/-! ## Reading -/

/-- Characters of names: of anchors, handles and directives. -/
def isNameChar (c : Char) : Bool := c.isAlphanum || c = '_' || c = '-'

/-- Characters of tags, those between angle brackets (`verbatim`) among them. -/
def isTagChar (verbatim : Bool) (c : Char) : Bool :=
  isNameChar c || ";/?:@&=+$.!~*'()".contains c || (verbatim && ",[]".contains c)

/-- The number of bytes that belong to a character behind its first one. -/
def followers? (byte : Nat) : Option Nat :=
  if byte < 0x80 then some 0
  else if byte < 0xC0 then none
  else if byte < 0xE0 then some 1
  else if byte < 0xF0 then some 2
  else if byte < 0xF8 then some 3
  else none

/-- The number of bytes that belong to a character behind the next one, of `pending` that have to follow. -/
def pendingAfter? (pending byte : Nat) : Option Nat :=
  match pending with
  | 0 => followers? byte
  | n + 1 => if 0x80 ≤ byte ∧ byte < 0xC0 then some n else none

/-- The bytes of a tag behind `done`, the latest first, and what follows them. -/
def uri? (verbatim : Bool) : List Char → Nat → List UInt8 → Option (List UInt8 × List Char)
  | '%' :: high :: low :: rest, pending, done => do
    let byte := 16 * (← hexValue? high) + (← hexValue? low)
    uri? verbatim rest (← pendingAfter? pending byte) (.ofNat byte :: done)
  | [], 0, done => some (done.reverse, [])
  | c :: rest, 0, done =>
    if isTagChar verbatim c then uri? verbatim rest 0 (.ofNat c.toNat :: done)
    else if c = '%' then none
    else some (done.reverse, c :: rest)
  | _, _, _ => none

def beforeZero (bytes : List UInt8) : List UInt8 := bytes.takeWhile fun b => b ≠ 0

def someUri? (verbatim : Bool) (cs : List Char) : Option (List UInt8 × List Char) :=
  (uri? verbatim cs 0 []).bind fun (bytes, rest) =>
    if bytes.isEmpty then none else some (beforeZero bytes, rest)

abbrev Handles := List (String × List UInt8)

/-- The handles that need no directive. -/
def Handles.initial : Handles := [("!", bytesOf "!"), ("!!", common)]

/-- The handle at the front of a text behind its exclamation mark, and what follows it. -/
def handle? (cs : List Char) : Option (String × List Char) :=
  match cs.dropWhile isNameChar with
  | '!' :: rest => some ("!" ++ String.ofList (cs.takeWhile isNameChar) ++ "!", rest)
  | _ => none

/-- The tag behind an exclamation mark, and what follows it. -/
def read? (handles : Handles) : List Char → Option (Tag × List Char)
  | '<' :: rest =>
    (someUri? true rest).bind fun
      | (bytes, '>' :: rest) => some (⟨bytes⟩, rest)
      | _ => none
  | cs =>
    match handle? cs with
    | some (handle, rest) => do
      let (bytes, rest) ← someUri? false rest
      return (⟨(← handles.lookup handle) ++ bytes⟩, rest)
    | none => do
      let (bytes, rest) ← uri? false cs 0 []
      let bytes := beforeZero bytes
      if bytes.isEmpty then return (bare, rest)
      return (⟨(← handles.lookup "!") ++ bytes⟩, rest)

end Tag

/-- A line before a document. -/
inductive Directive where
  /-- The version of the language. -/
  | version (major minor : Nat)
  | handle (name : String) (bytes : List UInt8)

namespace Directive

def startsBlank : List Char → Bool
  | c :: _ => c = ' ' || c = '\t'
  | [] => false

def skipBlanks (cs : List Char) : List Char := cs.dropWhile fun c => c = ' ' || c = '\t'

/-- A number of at most nine digits. -/
def number? (cs : List Char) : Option (Nat × List Char) :=
  let (digits, rest) := spanDigits cs
  if digits.isEmpty || 9 < digits.length then none else some (digitsValue digits, rest)

def version? (cs : List Char) : Option (Directive × List Char) :=
  (number? (skipBlanks cs)).bind fun
    | (major, '.' :: rest) => (number? rest).map fun (minor, rest) => (.version major minor, rest)
    | _ => none

/-- The handle behind its directive's name, `!` or between two of them, and what it stands for. -/
def handle? (cs : List Char) : Option (Directive × List Char) :=
  match skipBlanks cs with
  | '!' :: cs => do
    let (name, rest) := (Tag.handle? cs).getD ("!", cs)
    if startsBlank rest then
      let (bytes, rest) ← Tag.someUri? true (skipBlanks rest)
      some (.handle name bytes, rest)
    else none
  | _ => none

def read? (cs : List Char) : Option (Directive × List Char) :=
  let name := String.ofList (cs.takeWhile Tag.isNameChar)
  let rest := cs.dropWhile Tag.isNameChar
  if !startsBlank rest then none
  else if name = "YAML" then version? rest
  else if name = "TAG" then handle? rest
  else none

end Directive

end Yaml

end VarSchema
