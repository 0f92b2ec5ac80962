import VarSchema.ExtendedPattern.Basic
import VarSchema.Number.Power
import VarSchema.Text.Digit

/-!
# Reading extended patterns

`ExtendedPattern.parse?` reads an extended pattern, if the text is one, and says which groups it refers to.
Brackets may be nested to depth `ExtendedPattern.depthLimit`; each level reads what is inside by the reader of
the next one. Classes and properties are kept as text, since they are plain.

A brace that is no number of repetitions is a character, and comments in parentheses stand between any
two items.
-/

namespace VarSchema

namespace ExtendedPattern

structure Flags where
  ignoreCase : Bool
  multiLine : Bool
  dotAll : Bool
  swapGreed : Bool
  /-- Blanks and comments between items are skipped. -/
  extended : Bool

/-- What is left to read, the flags, the groups so far with their names, the latest first, and the groups
that are referred to. -/
structure ReadState where
  rest : List Char
  flags : Flags
  groups : Nat
  names : List (List Char × Nat)
  /-- Some group is referred to by its number. -/
  numbered : Bool
  referred : List Nat
  /-- The first number that no reference may have. -/
  limit : Nat

/-- Reading of what may be no extended pattern. -/
abbrev Read := StateT ReadState Option

/-! ## Characters -/

def peek? : Read (Option Char) := return (← get).rest.head?

def skip (n : Nat) : Read Unit := modify fun s => { s with rest := s.rest.drop n }

/-- Takes some characters if they are next. -/
def accept (cs : List Char) : Read Bool := do
  let found := cs.isPrefixOf (← get).rest
  if found then skip cs.length
  return found

/-- What stands behind a comment in parentheses; a backslash hides the character behind it. -/
def afterComment? : List Char → Option (List Char)
  | [] => none
  | ')' :: rest => some rest
  | '\\' :: _ :: rest => afterComment? rest
  | _ :: rest => afterComment? rest

/-- What stands behind blanks and comments. Each turn takes a character, so their number bounds the turns. -/
def afterBlanks? (extended : Bool) : Nat → List Char → Option (List Char)
  | 0, cs => some cs
  | fuel + 1, cs =>
    match cs with
    | '#' :: rest =>
      if extended then afterBlanks? extended fuel ((rest.dropWhile (· ≠ '\n')).drop 1) else some cs
    | '(' :: '?' :: '#' :: rest => (afterComment? rest).bind (afterBlanks? extended fuel)
    | c :: rest =>
      if extended && " \r\n\t".contains c then afterBlanks? extended fuel rest else some cs
    | [] => some cs

def skipBlanks : Read Unit := do
  let s ← get
  let rest ← afterBlanks? s.flags.extended (s.rest.length + 1) s.rest
  set { s with rest }

/-- Takes a character that has to be next. -/
def require (c : Char) : Read Unit := do
  skipBlanks
  if !(← accept [c]) then failure

/-! ## Numbers -/

/-- A number of decimal digits, if it has at most 64 bits. -/
def decimal? (digits : List Char) : Option Nat :=
  let n := digitsValue digits
  if digits.isEmpty || decide (twoPow 64 ≤ n) then none else some n

def readDecimal : Read Nat := do
  let (digits, rest) := spanDigits (← get).rest
  let n ← decimal? digits
  modify fun s => { s with rest }
  return n

def hexNumber? (cs : List Char) : Option Nat :=
  if cs.isEmpty then none
  else cs.foldl (fun n c => do return 16 * (← n) + (← hexValue? c)) (some 0)

/-- A character by its code point: a fixed number of hexadecimal digits, or one to eight in braces. -/
def readCodePoint (count : Nat) : Read Char := do
  let cs := (← get).rest
  let fixed := cs.take count
  match if fixed.length = count then hexNumber? fixed else none with
  | some n =>
    skip count
    scalar? n
  | none =>
    if !(← accept ['\x7b']) then failure
    let digits := (← get).rest.takeWhile (· ≠ '\x7d')
    if 8 < digits.length then failure
    skip digits.length
    if !(← accept ['\x7d']) then failure
    (hexNumber? digits).bind scalar?

/-- The largest number that stands for no limit. -/
def unlimited : Nat := twoPow 64 - 1

/-- The number of repetitions in braces. -/
def readCounts : Read (Nat × Option Nat) := do
  skip 1
  skipBlanks
  let least ← if (← peek?) == some ',' then pure 0 else readDecimal
  skipBlanks
  let most ← if ← accept [','] then
      skipBlanks
      readDecimal <|> pure unlimited
    else pure least
  require '\x7d'
  return (least, if most = unlimited then none else some most)

/-! ## Escapes -/

def isNameChar (c : Char) : Bool :=
  c = '_' || Derived.alphabetic.has c || (Category.union Category.numbers).has c

def readName (opening closing : List Char) : Read (List Char) := do
  if !(← accept opening) then failure
  let name := (← get).rest.takeWhile isNameChar
  skip name.length
  if name.isEmpty || !(← accept closing) then failure
  return name

def newGroup : Read Nat := modifyGet fun s => (s.groups + 1, { s with groups := s.groups + 1 })

/-- The group of a name: by its name or by its number. -/
def groupNamed (name : List Char) : Read Nat := do
  match (← get).names.find? (·.1 = name) with
  | some (_, i) => return i
  | none => if name.all Char.isDigit then decimal? name else failure

/-- A group by its distance: the latest one, one before it, or one that is still to come. -/
def readRelative (closing : List Char) : Read Nat := do
  let back ← accept ['-']
  if !back then
    if !(← accept ['+']) then failure
  let n ← readDecimal
  if !(← accept closing) then failure
  let groups := (← get).groups
  if !back || n = 0 then return groups + n
  else if n ≤ groups + 1 then return groups + 1 - n
  else failure

def readGroupName (opening closing : List Char) : Read Nat :=
  (do groupNamed (← readName opening closing)) <|>
    (do if !(← accept opening) then failure
        readRelative closing)

def readGroupNumber : Read Nat := do
  let n ← readDecimal
  let s ← get
  if s.limit ≤ n then failure
  set { s with numbered := true }
  return n

def refer (index : Nat) : Read ExtendedPattern := do
  modify fun s => { s with referred := index :: s.referred }
  return .backreference index

/-- A part that is plain as it stands, of one character. -/
def plainChar (cs : List Char) : Read ExtendedPattern := return .plain cs 1 (← get).flags.ignoreCase

/-- A property behind a backslash and the letter `p`, by one letter or in braces. -/
def readProperty (letter : Char) : Read ExtendedPattern := do
  let rest := (← get).rest
  let name ← match rest with
    | '\x7b' :: _ => do
      let name := rest.takeWhile (· ≠ '\x7d')
      if name.length = rest.length then failure
      pure (name ++ ['\x7d'])
    | c :: _ => pure [c]
    | [] => failure
  skip name.length
  plainChar ('\\' :: letter :: name)

/-- The control characters behind a backslash. -/
def controlChar? (c : Char) : Option Char :=
  match c with
  | 'a' => some '\x07'
  | 'b' => some '\x08'
  | 'f' => some '\x0c'
  | 'n' => some '\n'
  | 'r' => some '\r'
  | 't' => some '\t'
  | 'v' => some '\x0b'
  | 'e' => some '\x1b'
  | _ => none

/-- Whether a letter behind a backslash stands for itself in a class. -/
def isQuotedLetter (c : Char) : Bool := "kAzBKG".contains c

/-- What a character behind a backslash means both inside and outside of classes. -/
def readCommonEscape (c : Char) : Read ExtendedPattern := do
  if c.isDigit then refer (← readGroupNumber)
  else
    skip 1
    if "dDsSwW".contains c then plainChar ['\\', c]
    else if c = 'h' then return .plain "[0-9A-Fa-f]".toList 1 false
    else if c = 'H' then return .plain "[^0-9A-Fa-f]".toList 1 false
    else if c = 'x' then return .literal (← readCodePoint 2) (← get).flags.ignoreCase
    else if c = 'u' then return .literal (← readCodePoint 4) (← get).flags.ignoreCase
    else if c = 'U' then return .literal (← readCodePoint 8) (← get).flags.ignoreCase
    else if c = 'p' || c = 'P' then readProperty c
    else
      match controlChar? c with
      | some control => return .literal control false
      | none =>
        if c.isAlpha && !isQuotedLetter c then failure
        return .literal c false

/-- An anchor at a word, which no brace may follow. -/
def wordAnchor (kind : WordAnchor) : Read ExtendedPattern := do
  if (← peek?) == some '\x7b' then failure
  return .anchor (.word kind false)

/-- What stands behind a backslash outside of classes. -/
def readEscape : Read ExtendedPattern := do
  match ← peek? with
  | none => failure
  | some 'k' =>
    skip 1
    if (← peek?) == some '\'' then refer (← readGroupName ['\''] ['\''])
    else refer (← readGroupName ['<'] ['>'])
  | some 'A' => do
    skip 1
    return .anchor .textStart
  | some 'z' => do
    skip 1
    return .anchor .textEnd
  | some 'Z' => do
    skip 1
    return .look .ahead true (.plain "\\n*$".toList 0 false)
  | some 'b' => do
    skip 1
    wordAnchor .boundary
  | some 'B' => do
    skip 1
    wordAnchor .notBoundary
  | some '<' => do
    skip 1
    return .anchor (.word .start false)
  | some '>' => do
    skip 1
    return .anchor (.word .stop false)
  | some 'K' => do
    skip 1
    return .keepOut
  | some 'G' => do
    skip 1
    return .searchStart
  | some c => readCommonEscape c

/-! ## Classes -/

def quotedClassChar (c : Char) : List Char :=
  if isSpecial c || "&-~".contains c then ['\\', c] else [c]

/-- What stands behind a backslash in a class, as text. -/
def readClassEscape : Read (List Char) := do
  match ← peek? with
  | none => failure
  | some c =>
    match ← readCommonEscape c with
    | .literal c _ => return quotedClassChar c
    | .plain text _ _ => return text
    | _ => failure

/-- The text of a class up to the bracket that closes it; `depth` brackets are open inside. -/
def readClassText : Nat → Nat → List Char → Read (List Char)
  | 0, _, _ => failure
  | fuel + 1, depth, done => do
    match ← peek? with
    | none => failure
    | some '\\' =>
      skip 1
      let text ← readClassEscape
      readClassText fuel depth (text.reverse ++ done)
    | some '[' =>
      skip 1
      readClassText fuel (depth + 1) ('[' :: done)
    | some ']' =>
      skip 1
      if depth = 0 then return (']' :: done).reverse
      readClassText fuel (depth - 1) (']' :: done)
    | some c =>
      skip 1
      readClassText fuel depth (c :: done)

/-- A class. A bracket that would close it at once is a character. -/
def readClass : Read ExtendedPattern := do
  skip 1
  let negated ← accept ['^']
  let closing ← accept [']']
  let start := '[' :: (if negated then ['^'] else []) ++ (if closing then [']'] else [])
  plainChar (← readClassText ((← get).rest.length + 1) 0 start.reverse)

/-! ## Items -/

/-- The flags with one of them set or reset. -/
def Flags.change? (f : Flags) (on : Bool) (c : Char) : Option Flags :=
  match c with
  | 'i' => some { f with ignoreCase := on }
  | 'm' => some { f with multiLine := on }
  | 's' => some { f with dotAll := on }
  | 'U' => some { f with swapGreed := on }
  | 'x' => some { f with extended := on }
  | 'u' => if on then some f else none
  | _ => none

/-- Changes of flags up to a colon or parenthesis, which is given back with whether nothing stands before it.
A hyphen needs a flag behind it, unless a comment or blank is there. -/
def readFlags (available : Nat) : Nat → Bool → Read (Char × Bool)
  | 0, _ => failure
  | fuel + 1, on => do
    skipBlanks
    let s ← get
    match s.rest with
    | [] => failure
    | c :: rest =>
      let taken := available - s.rest.length
      set { s with rest }
      if c = '-' then
        if on then readFlags available fuel false else failure
      else if c = ':' || c = ')' then
        if !on && taken = 1 then failure
        return (c, taken = 0)
      else
        let flags ← s.flags.change? on c
        set { s with rest, flags }
        readFlags available fuel on

/-- A repetition of an item, or the item itself. -/
def readRepetition (p : ExtendedPattern) : Read ExtendedPattern := do
  let counts : Option (Nat × Option Nat) ← match ← peek? with
    | some '?' => skip 1 *> pure (some (0, some 1))
    | some '*' => skip 1 *> pure (some (0, none))
    | some '+' => skip 1 *> pure (some (1, none))
    | some '\x7b' => (some <$> readCounts) <|> pure none
    | _ => pure none
  match counts with
  | none => return p
  | some (least, most) =>
    match p with
    | .look _ _ _ => failure
    | .empty => failure
    | .anchor _ => failure
    | _ =>
      skipBlanks
      let lazy ← accept ['?']
      let greedy := lazy == (← get).flags.swapGreed
      let repeated := .repeated p least most greedy
      return if ← accept ['+'] then .atomic repeated else repeated

/-- The parts of a sequence that are not empty, as one. -/
def ofParts (parts : List ExtendedPattern) : ExtendedPattern :=
  match parts with
  | [] => .empty
  | [p] => p
  | ps => .sequence ps

/-- The branches of alternatives, if there are two or more. -/
def ofBranches (branches : List ExtendedPattern) : ExtendedPattern :=
  match branches with
  | [p] => p
  | ps => .alternatives ps

/-- A conditional; without branches that say anything it is its condition. -/
def ofConditional (condition inner : ExtendedPattern) : ExtendedPattern :=
  let (yes, no) := match inner with
    | .alternatives (yes :: rest) => (yes, ofBranches rest)
    | _ => (inner, .empty)
  if yes.isEmpty && no.isEmpty then condition else .conditional condition yes no

section Levels

variable (inside : Read ExtendedPattern)

def readClosed : Read ExtendedPattern := do
  let p ← inside
  require ')'
  return p

/-- The condition of a conditional, up to its closing parenthesis, and whether it is that a group so far has
matched; the whole pattern is group zero. -/
def readCondition : Read (ExtendedPattern × Bool) := do
  let reference : Option (Read Nat) := match (← peek?) with
    | some '\'' => some (readGroupName ['\''] ['\''])
    | some '<' => some (readGroupName ['<'] ['>'])
    | some c => if c.isDigit then some readGroupNumber else none
    | none => none
  match reference with
  | some read =>
    let i ← read
    require ')'
    if (← get).groups < i then failure
    if i = 0 then return (.empty, true)
    modify fun s => { s with referred := i :: s.referred }
    return (.groupMatched i, true)
  | none => return (← readClosed inside, false)

/-- A conditional, whose opening has been read. -/
def readConditional : Read ExtendedPattern := do
  let (condition, isReference) ← readCondition inside
  let before := (← get).rest.length
  let p ← inside
  if (← get).rest.length = before && !isReference then failure
  require ')'
  return ofConditional condition p

/-- Changes of flags, for what follows or for the inside of a group. -/
def readFlagGroup : Read ExtendedPattern := do
  let outer := (← get).flags
  let (close, bare) ← readFlags (← get).rest.length ((← get).rest.length + 1) true
  if close = ')' then
    if bare then failure
    return .empty
  else
    let p ← inside
    if !(← accept [')']) then failure
    modify fun s => { s with flags := outer }
    return p

def readNamedGroup : Read ExtendedPattern := do
  let i ← newGroup
  let name ← readName ['<'] ['>']
  modify fun s => { s with names := (name, i) :: s.names }
  return .group i (← readClosed inside)

/-- What parentheses enclose; the opening one is next. -/
def readGroup : Read ExtendedPattern := do
  skip 1
  skipBlanks
  if ← accept "?=".toList then return .look .ahead true (← readClosed inside)
  else if ← accept "?!".toList then return .look .ahead false (← readClosed inside)
  else if ← accept "?<=".toList then return .look .behind true (← readClosed inside)
  else if ← accept "?<!".toList then return .look .behind false (← readClosed inside)
  else if "?<".toList.isPrefixOf (← get).rest then
    skip 1
    readNamedGroup inside
  else if "?P<".toList.isPrefixOf (← get).rest then
    skip 2
    readNamedGroup inside
  else if ← accept "?P=".toList then refer (← groupNamed (← readName [] [')']))
  else if ← accept "?>".toList then return .atomic (← readClosed inside)
  else if ← accept "?(".toList then readConditional inside
  else if ← accept ['?'] then readFlagGroup inside
  else
    let i ← newGroup
    return .group i (← readClosed inside)

/-- An item; nothing where none starts. -/
def readAtom : Read ExtendedPattern := do
  skipBlanks
  let s ← get
  match s.rest with
  | [] => return .empty
  | c :: _ =>
    if c = '(' then readGroup inside
    else if "+*?|)".contains c then return .empty
    else if c = '[' then readClass
    else
      skip 1
      if c = '.' then return .any s.flags.dotAll
      else if c = '^' then return .anchor (if s.flags.multiLine then .lineStart else .textStart)
      else if c = '$' then return .anchor (if s.flags.multiLine then .lineEnd else .textEnd)
      else if c = '\\' then readEscape
      else return .literal c s.flags.ignoreCase

/-- The items of a branch, the latest first, as far as they take characters. -/
def readItems : Nat → List ExtendedPattern → Read (List ExtendedPattern)
  | 0, done => return done
  | fuel + 1, done => do
    let before := (← get).rest.length
    let p ← readAtom inside
    skipBlanks
    let p ← readRepetition p
    if (← get).rest.length = before then return done
    readItems fuel (if p.isEmpty then done else p :: done)

def readBranch : Read ExtendedPattern := do
  let items ← readItems inside ((← get).rest.length + 1) []
  skipBlanks
  return ofParts items.reverse

/-- More branches, the latest first, each behind a bar. -/
def readBranches : Nat → List ExtendedPattern → Read (List ExtendedPattern)
  | 0, done => return done
  | fuel + 1, done => do
    if ← accept ['|'] then
      let p ← readBranch inside
      readBranches fuel (p :: done)
    else return done

/-- Alternatives. Outside of alternatives, groups with names are not referred to by numbers. -/
def readAlternatives : Read ExtendedPattern := do
  let first ← readBranch inside
  let branches ← readBranches inside ((← get).rest.length + 1) [first]
  match branches with
  | [p] =>
    let s ← get
    if s.numbered && !s.names.isEmpty then failure
    return p
  | ps => return .alternatives ps.reverse

end Levels

/-- How deep brackets may be nested. -/
def depthLimit : Nat := 63

/-- A pattern whose brackets are nested to some depth at most. -/
def readLevel : Nat → Read ExtendedPattern
  | 0 => readAlternatives failure
  | depth + 1 => readAlternatives (readLevel depth)

def byteLength (cs : List Char) : Nat := cs.foldr (fun c n => c.utf8Size + n) 0

/-- Reads an extended pattern; the groups that are referred to have to exist. -/
def parse? (cs : List Char) : Option (ExtendedPattern × List Nat) := do
  let start : ReadState := ⟨cs, ⟨false, false, false, false, false⟩, 0, [], false, [], byteLength cs / 2⟩
  let (p, s) ← (readLevel depthLimit).run start
  if s.rest.isEmpty && s.referred.all fun i => 0 < i && i ≤ s.groups then some (p, s.referred) else none

end ExtendedPattern

end VarSchema
