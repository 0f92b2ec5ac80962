import VarSchema.Text.Digit

/-!
# Identifiers

* `UriReference` : the parts of a reference to a resource, absolute if it has a scheme;
* `UriReference.ofText?` : the parts of a text that is such a reference. Every part has an alphabet of its own,
  in ASCII, and other characters are written as bytes behind percent signs.
-/

namespace VarSchema

/-- The parts of a reference to a resource. -/
structure UriReference where
  scheme? : Option (List Char)
  authority? : Option (List Char)
  path : List Char
  query? : Option (List Char)
  fragment? : Option (List Char)

namespace UriReference

/-! ## Alphabets -/

/-- Letters and digits of ASCII and four marks. -/
def isUnreserved (c : Char) : Bool := c.isAlphanum || "-._~".contains c

def isSeparator (c : Char) : Bool := "!$&'()*+,;=".contains c

def isNameChar (c : Char) : Bool := isUnreserved c || isSeparator c

def isPathChar (c : Char) : Bool := isNameChar c || c = ':' || c = '@' || c = '/'

def isQueryChar (c : Char) : Bool := isPathChar c || c = '?'

/-- Whether a part holds some characters only, and bytes behind percent signs. -/
def holdsOnly (p : Char → Bool) : List Char → Bool
  | [] => true
  | '%' :: a :: b :: rest => (hexValue? a).isSome && (hexValue? b).isSome && holdsOnly p rest
  | c :: rest => p c && holdsOnly p rest

/-! ## Hosts -/

/-- Whether a text is a number up to 255 without needless zeros. -/
def isByte (cs : List Char) : Bool :=
  !cs.isEmpty && cs.all Char.isDigit && decide (digitsValue cs ≤ 255) && (cs.head? != some '0' || cs.length = 1)

/-- Whether a text is an address of four numbers. -/
def isShortAddress (cs : List Char) : Bool :=
  let parts := cs.splitOn '.'
  parts.length = 4 && parts.all isByte

def isGroup (cs : List Char) : Bool :=
  !cs.isEmpty && cs.length ≤ 4 && cs.all fun c => (hexValue? c).isSome

/-- The number of groups of a part of a long address; the last may be a short address, which counts twice. -/
def groupCount? (last : Bool) : List (List Char) → Option Nat
  | [] => some 0
  | [cs] => if isGroup cs then some 1 else if last && isShortAddress cs then some 2 else none
  | cs :: rest => if isGroup cs then (groupCount? last rest).map (· + 1) else none

/-- The groups between colons; an empty text has none. -/
def groupsOf (cs : List Char) : List (List Char) := if cs.isEmpty then [] else cs.splitOn ':'

/-- The texts before and behind the first double colon. -/
def splitAtGap? : List Char → Option (List Char × List Char)
  | [] => none
  | ':' :: ':' :: rest => some ([], rest)
  | c :: rest => (splitAtGap? rest).map fun (a, b) => (c :: a, b)

/-- Whether a text is an address of eight groups, where a gap stands for at least one. -/
def isLongAddress (cs : List Char) : Bool :=
  match splitAtGap? cs with
  | none => groupCount? true (groupsOf cs) == some 8
  | some (a, b) =>
    match groupCount? false (groupsOf a), groupCount? true (groupsOf b) with
    | some m, some n => decide (m + n ≤ 7)
    | _, _ => false

def isLaterAddress (cs : List Char) : Bool :=
  match cs with
  | v :: rest =>
    let version := rest.takeWhile (· ≠ '.')
    let address := rest.drop (version.length + 1)
    (v = 'v' || v = 'V') && !version.isEmpty && version.all (fun c => (hexValue? c).isSome) &&
      !address.isEmpty && address.all fun c => isNameChar c || c = ':'
  | [] => false

/-- Whether a text is empty or a colon with digits, which tell services of a host apart. -/
def isService (cs : List Char) : Bool :=
  match cs with
  | [] => true
  | c :: digits => c = ':' && digits.all Char.isDigit

def isHost (cs : List Char) : Bool :=
  match cs with
  | '[' :: rest =>
    let address := rest.takeWhile (· ≠ ']')
    let service := rest.drop (address.length + 1)
    decide (address.length < rest.length) && (isLongAddress address || isLaterAddress address) && isService service
  | _ =>
    let name := cs.takeWhile (· ≠ ':')
    holdsOnly isNameChar name && isService (cs.drop name.length)

/-- Whether a text is an authority: a host behind the name of a user, if there is one. -/
def isAuthority (cs : List Char) : Bool :=
  let user := cs.takeWhile (· ≠ '@')
  if user.length = cs.length then isHost cs
  else holdsOnly (fun c => isNameChar c || c = ':') user && isHost (cs.drop (user.length + 1))

/-! ## Parts -/

def isScheme (cs : List Char) : Bool :=
  match cs with
  | c :: rest => c.isAlpha && rest.all fun c => c.isAlphanum || "+-.".contains c
  | [] => false

/-- The text up to a mark, and behind it if it is there. -/
def splitAtMark (mark : Char) (cs : List Char) : List Char × Option (List Char) :=
  let before := cs.takeWhile (· ≠ mark)
  (before, if before.length = cs.length then none else some (cs.drop (before.length + 1)))

/-- The scheme of a text without query and fragment, and what is behind it. -/
def splitScheme (cs : List Char) : Option (List Char) × List Char :=
  match splitAtMark ':' cs with
  | (before, some rest) => if before.contains '/' then (none, cs) else (some before, rest)
  | (_, none) => (none, cs)

/-- The authority of a text without scheme, query and fragment, and the path behind it. -/
def splitAuthority (cs : List Char) : Option (List Char) × List Char :=
  match cs with
  | '/' :: '/' :: rest =>
    let authority := rest.takeWhile (· ≠ '/')
    (some authority, rest.drop authority.length)
  | _ => (none, cs)

/-- The parts of a text, whatever they hold. -/
def split (cs : List Char) : UriReference :=
  let (cs, fragment?) := splitAtMark '#' cs
  let (cs, query?) := splitAtMark '?' cs
  let (scheme?, cs) := splitScheme cs
  let (authority?, path) := splitAuthority cs
  ⟨scheme?, authority?, path, query?, fragment?⟩

def isValid (u : UriReference) : Bool :=
  u.scheme?.all isScheme && u.authority?.all isAuthority && holdsOnly isPathChar u.path &&
    u.query?.all (holdsOnly isQueryChar) && u.fragment?.all (holdsOnly isQueryChar)

def ofText? (s : String) : Option UriReference :=
  let u := split s.toList
  if u.isValid then some u else none

/-- Whether a reference needs no other to be understood. -/
def isAbsolute (u : UriReference) : Bool := u.scheme?.isSome

def hasScheme (scheme : String) (u : UriReference) : Bool :=
  u.scheme?.any fun cs => cs.map Char.toLower == scheme.toList

end UriReference

end VarSchema
