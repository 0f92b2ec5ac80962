import VarSchema.Number.Power
import VarSchema.Pattern.Tree
import VarSchema.Text.Digit
import VarSchema.Unicode.Property

/-!
# Reading patterns

`PatternTree.parse` reads a pattern or says what is wrong with it first. Groups, alternatives and nested
character classes are kept on explicit stacks, and each turn of the loops `PatternTree.read` and
`PatternTree.readClass` takes at least one character, so that the length of the pattern bounds their turns.
What a pattern means is not looked at: unknown properties, for instance, are read like known ones.
-/

namespace VarSchema

namespace PatternTree

/-- What is left to read, whether blanks and comments between items are skipped, the number of groups and
their names so far. -/
structure ReadState where
  rest : List Char
  offset : Nat
  extended : Bool
  groups : Nat
  names : List (List Char × Span)

/-- Reading with errors. -/
abbrev Read := StateT ReadState (Except PatternError)

/-! ## Characters -/

def fail (fault : PatternFault) (span : Span) : Read α := throw ⟨fault, span, none⟩

def peek : Read (Option Char) := return (← get).rest.head?

/-- The number of characters read. -/
def position : Read Nat := return (← get).offset

def skip (n : Nat) : Read Unit :=
  modify fun s => { s with rest := s.rest.drop n, offset := s.offset + min n s.rest.length }

def here : Read Span := return ⟨← position, ← position⟩

def charSpan : Read Span := return ⟨← position, (← position) + 1⟩

/-- From an offset to here. -/
def spanFrom (start : Nat) : Read Span := return ⟨start, ← position⟩

/-- Takes the characters of `cs` if they are next. -/
def accept (cs : List Char) : Read Bool := do
  if cs.isPrefixOf (← get).rest then
    skip cs.length
    return true
  return false

/-- What is behind blanks and comments. A comment runs from a hash to the end of its line. -/
def behindBlanks : Bool → List Char → List Char
  | _, [] => []
  | true, c :: rest => behindBlanks (c != '\n') rest
  | false, c :: rest =>
    if isWhite c then behindBlanks false rest
    else if c = '#' then behindBlanks true rest
    else c :: rest

/-- Takes blanks and comments if the flags say so. -/
def skipBlanks : Read Unit := do
  let s ← get
  if s.extended then skip (s.rest.length - (behindBlanks false s.rest).length)

/-- Takes one character, then blanks. -/
def next : Read (Option Char) := do
  skip 1
  skipBlanks
  peek

def peekSecond : Read (Option Char) := return (← get).rest.tail.head?

def peekBehindBlanks : Read (Option Char) := do
  let s ← get
  return (if s.extended then behindBlanks false s.rest.tail else s.rest.tail).head?

/-! ## Escapes -/

/-- What stands for a character, a class or a place. -/
inductive Primitive where
  | literal (c : Char) (form : LiteralForm)
  | named (negated : Bool) (c : NamedClass)
  | mark (m : Mark)

/-- Characters with a meaning of their own somewhere in a pattern. -/
def isMeta (c : Char) : Bool := "\\.+*?()|[]\x7b\x7d^$#&-~".contains c

/-- Characters that may be escaped although they need not be. -/
def isEscapable (c : Char) : Bool :=
  isMeta c || (decide (c.toNat < 0x80) && !c.isAlphanum && c ≠ '<' && c ≠ '>')

/-- Exactly `n` hexadecimal digits, the first of them next. -/
def hexDigits : Nat → Nat → Read Nat
  | 0, value => return value
  | n + 1, value => do
    match ← peek with
    | none => fail .escapeEnd (← here)
    | some c =>
      match hexValue? c with
      | none => fail .hexDigit (← charSpan)
      | some d =>
        skip 1
        skipBlanks
        hexDigits n (16 * value + d)

/-- Hexadecimal digits up to a closing brace, with the number of digits. -/
def bracedDigits (brace : Nat) : Nat → Nat → Nat → Read (Nat × Nat)
  | 0, value, count => return (value, count)
  | fuel + 1, value, count => do
    match ← next with
    | none => fail .escapeEnd (← spanFrom brace)
    | some '\x7d' => return (value, count)
    | some c =>
      match hexValue? c with
      | none => fail .hexDigit (← charSpan)
      | some d => bracedDigits brace fuel (16 * value + d) (count + 1)

/-- A character by its code point; the letter of the escape is next. -/
def readHex (digits : Nat) : Read Primitive := do
  match ← next with
  | none => fail .escapeEnd (← here)
  | some '\x7b' =>
    let brace ← position
    let (value, count) ← bracedDigits brace ((← get).rest.length + 1) 0 0
    let stop ← position
    let _ ← next
    if count = 0 then fail .hexEmpty (← spanFrom brace)
    match scalar? value with
    | some c => return .literal c .plain
    | none => fail .hexScalar ⟨brace + 1, stop⟩
  | some _ =>
    let start ← position
    let value ← hexDigits digits 0
    match scalar? value with
    | some c => return .literal c (if digits = 2 then .byte else .plain)
    | none => fail .hexScalar (← spanFrom start)

/-- A name up to a closing brace, its first character not yet taken. -/
def bracedName : Nat → List Char → Read (List Char)
  | 0, done => return done.reverse
  | fuel + 1, done => do
    match ← next with
    | none => fail .escapeEnd (← here)
    | some '\x7d' => return done.reverse
    | some c => bracedName fuel (c :: done)

/-- The parts of a name before and behind the first occurrence of `mark`. -/
def cutAt (mark : List Char) : List Char → Option (List Char × List Char)
  | [] => none
  | c :: rest =>
    if mark.isPrefixOf (c :: rest) then some ([], (c :: rest).drop mark.length)
    else (cutAt mark rest).map fun (a, b) => (c :: a, b)

/-- The property of a name in braces. Between name and value, `!=` means no other than `=`. -/
def propertyQuery (name : List Char) : PropertyQuery :=
  match cutAt ['!', '='] name with
  | some (n, v) => .value n v
  | none =>
    match cutAt [':'] name with
    | some (n, v) => .value n v
    | none =>
      match cutAt ['='] name with
      | some (n, v) => .value n v
      | none => .name name

/-- A property; its letter is next. -/
def readProperty : Read Primitive := do
  let negated := (← peek) == some 'P'
  match ← next with
  | none => fail .escapeEnd (← here)
  | some '\x7b' =>
    let name ← bracedName ((← get).rest.length + 1) []
    skip 1
    return .named negated (.property (propertyQuery name))
  | some '\\' => fail .propertyInvalid (← charSpan)
  | some c =>
    skip 1
    skipBlanks
    return .named negated (.property (.name [c]))

def isBoundaryChar (c : Char) : Bool := c.isAlpha || c = '-'

def boundaryName : Nat → List Char → Read (List Char)
  | 0, done => return done.reverse
  | fuel + 1, done => do
    match ← peek with
    | some c =>
      if isBoundaryChar c then
        let _ ← next
        boundaryName fuel (c :: done)
      else return done.reverse
    | none => return done.reverse

/-- A word boundary behind `\b`, by its name in braces if there is one. -/
def readBoundary (start : Nat) : Read Mark := do
  if (← peek) != some '\x7b' then return .wordBoundary
  let saved ← get
  match ← next with
  | none => fail .boundaryOrCountEnd (← spanFrom start)
  | some c =>
    if !isBoundaryChar c then
      set saved
      return .wordBoundary
    let contents ← position
    let name ← boundaryName ((← get).rest.length + 1) []
    if (← peek) != some '\x7d' then fail .boundaryUnclosed (← spanFrom saved.offset)
    let stop ← position
    skip 1
    match String.ofList name with
    | "start" => return .wordStart
    | "end" => return .wordEnd
    | "start-half" => return .wordStartHalf
    | "end-half" => return .wordEndHalf
    | _ => fail .boundaryUnknown ⟨contents, stop⟩

/-- The class of a letter behind a backslash, and whether it is the complement. -/
def classOf? (c : Char) : Option (Bool × LetterClass) :=
  match c with
  | 'd' => some (false, .digit)
  | 'D' => some (true, .digit)
  | 's' => some (false, .space)
  | 'S' => some (true, .space)
  | 'w' => some (false, .word)
  | 'W' => some (true, .word)
  | _ => none

/-- The control character of a letter behind a backslash. -/
def controlOf? (c : Char) : Option Char :=
  match c with
  | 'a' => some '\x07'
  | 'f' => some '\x0c'
  | 't' => some '\t'
  | 'n' => some '\n'
  | 'r' => some '\r'
  | 'v' => some '\x0b'
  | _ => none

/-- The place of a letter behind a backslash. -/
def markOf? (c : Char) : Option Mark :=
  match c with
  | 'A' => some .textStart
  | 'z' => some .textEnd
  | 'B' => some .notWordBoundary
  | '<' => some .wordStart
  | '>' => some .wordEnd
  | _ => none

def readEscape : Read Primitive := do
  let start ← position
  skip 1
  match ← peek with
  | none => fail .escapeEnd (← spanFrom start)
  | some c =>
    if c.isDigit then fail .backreference ⟨start, (← position) + 1⟩
    else if c = 'x' then readHex 2
    else if c = 'u' then readHex 4
    else if c = 'U' then readHex 8
    else if c = 'p' || c = 'P' then readProperty
    else
      skip 1
      match classOf? c with
      | some (negated, k) => return .named negated (.letter k)
      | none =>
        if isEscapable c then return .literal c .plain
        else if c = 'b' then return .mark (← readBoundary start)
        else
          match controlOf? c, markOf? c with
          | some d, _ => return .literal d (if c = 'a' then .bell else .plain)
          | none, some m => return .mark m
          | none, none => fail .escapeUnknown (← spanFrom start)

def readPrimitive : Read PatternTree := do
  let start ← position
  match ← peek with
  | some '\\' =>
    match ← readEscape with
    | .literal c form => return .literal ⟨← spanFrom start, c, form⟩
    | .named negated c => return .named (← spanFrom start) negated c
    | .mark m => return .mark (← spanFrom start) m
  | some c =>
    skip 1
    let span ← spanFrom start
    if c = '.' then return .dot span
    else if c = '^' then return .mark span .caret
    else if c = '$' then return .mark span .dollar
    else return .literal ⟨span, c, .plain⟩
  | none => return .empty (← here)

/-! ## Classes -/

/-- The items of a class so far, the latest first; without items, the place where they start. -/
structure ClassItems where
  start : Nat
  items : List ClassTree

def ClassItems.push (u : ClassItems) (t : ClassTree) : ClassItems := ⟨u.start, t :: u.items⟩

def ClassItems.toTree (u : ClassItems) : ClassTree :=
  match u.items.reverse with
  | [] => .empty ⟨u.start, u.start⟩
  | [t] => t
  | t :: rest => .union ⟨t.span.start, (rest.getLast?.getD t).span.stop⟩ (t :: rest)

/-- An open class: the items around it, its opening, and whether it is negated; or an operator with its
left part. -/
inductive ClassFrame where
  | opened (outer : ClassItems) (span : Span) (negated : Bool)
  | op (kind : ClassOp) (lhs : ClassTree)

/-- The error of a class that does not end: it points at the innermost opening. -/
def unclosedClass (frames : List ClassFrame) : Read α := do
  let opening? : ClassFrame → Option Span
    | .opened _ span _ => some span
    | .op _ _ => none
  match frames.filterMap opening? with
  | span :: _ => fail .classUnclosed span
  | [] => fail .classUnclosed (← here)

def bracketNames : List String :=
  ["alnum", "alpha", "ascii", "blank", "cntrl", "digit", "graph", "lower", "print", "punct", "space",
    "upper", "word", "xdigit"]

/-- A bracket class such as `[:alpha:]` at the start of a text: whether it is negated, its name and its
length. -/
def bracketClass? (cs : List Char) : Option (Bool × String × Nat) :=
  match cs with
  | '[' :: ':' :: rest =>
    let negated := rest.head? == some '^'
    let body := if negated then rest.tail else rest
    let name := body.takeWhile (· ≠ ':')
    if [':', ']'].isPrefixOf (body.drop name.length) && bracketNames.contains (String.ofList name) then
      some (negated, String.ofList name, 4 + name.length + if negated then 1 else 0)
    else none
  | _ => none

def readClassItem : Read (Primitive × Span) := do
  let start ← position
  match ← peek with
  | some '\\' =>
    let p ← readEscape
    return (p, ← spanFrom start)
  | some c =>
    skip 1
    return (.literal c .plain, ← spanFrom start)
  | none => return (.mark .textEnd, ← here)

def itemTree (item : Primitive × Span) : Read ClassTree :=
  match item.1 with
  | .literal c form => return .literal ⟨item.2, c, form⟩
  | .named negated c => return .named item.2 negated c
  | .mark _ => fail .classEscape item.2

def itemLiteral (item : Primitive × Span) : Read PatternLiteral :=
  match item.1 with
  | .literal c form => return ⟨item.2, c, form⟩
  | _ => fail .classRangeLiteral item.2

def readClassRange (frames : List ClassFrame) : Read ClassTree := do
  let first ← readClassItem
  skipBlanks
  match ← peek with
  | none => unclosedClass frames
  | some c =>
    let behind ← peekBehindBlanks
    if c ≠ '-' || behind == some ']' || behind == some '-' then itemTree first
    else
      if (← next).isNone then unclosedClass frames
      else
        let last ← readClassItem
        let lo ← itemLiteral first
        let hi ← itemLiteral last
        let span : Span := ⟨first.2.start, last.2.stop⟩
        if hi.char < lo.char then fail .classRangeOrder span
        return .range span lo hi

def leadingHyphens : Nat → ClassItems → Read ClassItems
  | 0, u => return u
  | fuel + 1, u => do
    if (← peek) == some '-' then
      let u := u.push (.literal ⟨← charSpan, '-', .plain⟩)
      if (← next).isNone then fail .classUnclosed ⟨u.start, u.start⟩
      leadingHyphens fuel u
    else return u

/-- The opening of a class: its span, whether it is negated, and the characters that are literal there. -/
def readClassOpening : Read (Span × Bool × ClassItems) := do
  let start ← position
  let first ← next
  if first.isNone then fail .classUnclosed (← spanFrom start)
  let negated := first == some '^'
  if negated then
    if (← next).isNone then fail .classUnclosed (← spanFrom start)
  let u ← leadingHyphens ((← get).rest.length + 1) ⟨← position, []⟩
  if u.items.isEmpty && (← peek) == some ']' then
    let u := u.push (.literal ⟨← charSpan, ']', .plain⟩)
    if (← next).isNone then fail .classUnclosed (← spanFrom start)
    return (← spanFrom start, negated, u)
  return (← spanFrom start, negated, u)

/-- The part with what is in front of its operator, if there is one. -/
def closeOp (frames : List ClassFrame) (t : ClassTree) : List ClassFrame × ClassTree :=
  match frames with
  | .op kind lhs :: rest => (rest, .op ⟨lhs.span.start, t.span.stop⟩ kind lhs t)
  | _ => (frames, t)

def classOp? (c : Char) (second : Option Char) : Option ClassOp :=
  if second ≠ some c then none
  else if c = '&' then some .intersection
  else if c = '-' then some .difference
  else if c = '~' then some .symmetricDifference
  else none

/-- A class: `frames` are the open ones, `u` the items of the innermost so far. -/
def readClass : Nat → List ClassFrame → ClassItems → Read PatternTree
  | 0, frames, _ => unclosedClass frames
  | fuel + 1, frames, u => do
    skipBlanks
    match ← peek with
    | none => unclosedClass frames
    | some c =>
      let start ← position
      if c = '[' then
        let rest := (← get).rest
        match if frames.isEmpty then none else bracketClass? rest with
        | some (negated, name, n) =>
          skip n
          readClass fuel frames (u.push (.named (← spanFrom start) negated (.bracket name)))
        | none =>
          let (span, negated, inner) ← readClassOpening
          readClass fuel (.opened u span negated :: frames) inner
      else if c = ']' then
        match closeOp frames u.toTree with
        | (.opened outer opening negated :: rest, inner) =>
          skip 1
          let span ← spanFrom opening.start
          if rest.isEmpty then return .bracketed span negated inner
          else readClass fuel rest (outer.push (.bracketed span negated inner))
        | (_, _) => unclosedClass frames
      else
        match classOp? c (← peekSecond) with
        | some kind =>
          skip 2
          let (frames, lhs) := closeOp frames u.toTree
          readClass fuel (.op kind lhs :: frames) ⟨← position, []⟩
        | none => readClass fuel frames (u.push (← readClassRange frames))

/-! ## Repetitions -/

/-- A decimal of at most 32 bits. -/
def decimalDigits : Nat → List Char → Read (List Char)
  | 0, done => return done.reverse
  | fuel + 1, done => do
    match ← peek with
    | some c =>
      if c.isDigit then
        let _ ← next
        decimalDigits fuel (c :: done)
      else return done.reverse
    | none => return done.reverse

def skipWhite : Read Unit := do skip ((← get).rest.takeWhile isWhite).length

/-- The first count that is too large, `2 ^ 32`. -/
def countLimit : Nat := twoPow 32

/-- The count of a repetition; a missing one is an error for whoever needs it. -/
def readCount : Read (Except PatternError Nat) := do
  skipWhite
  let start ← position
  let digits ← decimalDigits ((← get).rest.length + 1) []
  let span ← spanFrom start
  skipWhite
  let value := digitsValue digits
  if digits.isEmpty then return .error ⟨.countEmpty, span, none⟩
  else if value < countLimit then return .ok value
  else return .error ⟨.decimal, span, none⟩

/-- The bounds in braces; the opening brace is next, the closing one is left. -/
def readCounts : Read (Nat × Option Nat) := do
  let start ← position
  let unclosed : Read (Nat × Option Nat) := do fail .countUnclosed (← spanFrom start)
  if (← next).isNone then unclosed
  else
    let least ← readCount
    match ← peek with
    | none => unclosed
    | some ',' =>
      match ← next with
      | none => unclosed
      | some '\x7d' => return (← liftM least, none)
      | some _ =>
        let least ← liftM least
        let most ← liftM (← readCount)
        return (least, some most)
    | some _ =>
      let n ← liftM least
      return (n, some n)

/-! ## Groups -/

/-- A sequence so far: where it starts, and its items, the latest first. -/
structure Items where
  start : Nat
  items : List PatternTree

def Items.push (u : Items) (t : PatternTree) : Items := ⟨u.start, t :: u.items⟩

def Items.toTree (u : Items) (stop : Nat) : PatternTree :=
  match u.items.reverse with
  | [] => .empty ⟨u.start, stop⟩
  | [t] => t
  | ts => .sequence ⟨u.start, stop⟩ ts

/-- An open group: the items before it, its opening, what it does, and whether blanks are skipped outside;
or the branches before an alternative, the latest first, and where they start. -/
inductive Frame where
  | group (outer : Items) (span : Span) (kind : GroupKind) (extended : Bool)
  | branches (start : Nat) (done : List PatternTree)

/-- The alternatives up to `stop`, of which `last` is the last. -/
def alternativesOf (start stop : Nat) (done : List PatternTree) (last : PatternTree) : PatternTree :=
  .alternatives ⟨start, stop⟩ (done.reverse ++ [last])

/-- The item that a repetition operator repeats, and those before it. -/
def repeatable (u : Items) : Read (PatternTree × Items) :=
  match u.items with
  | [] => do fail .repetitionMissing (← here)
  | .empty _ :: _ => do fail .repetitionMissing (← here)
  | .flags _ _ :: _ => do fail .repetitionMissing (← here)
  | t :: rest => return (t, ⟨u.start, rest⟩)

inductive FlagItem where
  | negation
  | flag (c : Char)
deriving DecidableEq

/-- The flags up to a colon or parenthesis, the latest first. -/
def flagItems : Nat → List (FlagItem × Span) → Read (List (FlagItem × Span))
  | 0, done => return done
  | fuel + 1, done => do
    match ← peek with
    | none => fail .flagEnd (← here)
    | some c =>
      if c = ':' || c = ')' then return done
      let span ← charSpan
      let item : FlagItem := if c = '-' then .negation else .flag c
      if c ≠ '-' && !"ismUuRx".contains c then fail .flagUnknown span
      match done.find? (·.1 = item) with
      | some (_, first) =>
        throw ⟨if c = '-' then .flagNegationRepeated else .flagDuplicate, span, some first⟩
      | none =>
        skip 1
        flagItems fuel ((item, span) :: done)

def flagChanges : Bool → List FlagItem → List FlagChange
  | _, [] => []
  | _, .negation :: rest => flagChanges false rest
  | on, .flag c :: rest => ⟨c, on⟩ :: flagChanges on rest

def extendedAfter (before : Bool) (changes : List FlagChange) : Bool :=
  ((changes.find? (·.flag = 'x')).map FlagChange.on).getD before

/-- The characters of group names: letters and underscores, behind the first also numbers, full stops and
brackets. -/
def isNameChar (first : Bool) (c : Char) : Bool :=
  c = '_' || Derived.alphabetic.has c ||
    (!first && (c = '.' || c = '[' || c = ']' || (Category.union Category.numbers).has c))

def nameChars (start : Nat) : Nat → List Char → Read (List Char)
  | 0, done => return done.reverse
  | fuel + 1, done => do
    match ← peek with
    | none => fail .nameUnclosed (← here)
    | some '>' => return done.reverse
    | some c =>
      if !isNameChar ((← position) = start) c then fail .nameInvalid (← charSpan)
      skip 1
      nameChars start fuel (c :: done)

/-- A group name; no two groups have one name. -/
def readName : Read Unit := do
  let start ← position
  let name ← nameChars start ((← get).rest.length + 1) []
  let span ← spanFrom start
  skip 1
  if name.isEmpty then fail .nameEmpty ⟨start, start⟩
  match (← get).names.find? (·.1 = name) with
  | some (_, first) => throw ⟨.nameDuplicate, span, some first⟩
  | none => modify fun s => { s with names := (name, span) :: s.names }

def nextGroup : Read Nat :=
  modifyGet fun s => (s.groups + 1, { s with groups := s.groups + 1 })

/-- The opening of a group, with the kind of the group, or a change of flags; the parenthesis is next. -/
def readOpening : Read (GroupKind ⊕ List FlagChange) := do
  let span ← charSpan
  skip 1
  skipBlanks
  if (← accept ['?', '=']) || (← accept ['?', '!']) || (← accept ['?', '<', '=']) ||
      (← accept ['?', '<', '!']) then
    fail .lookAround ⟨span.start, ← position⟩
  let inner ← here
  if (← accept ['?', 'P', '<']) || (← accept ['?', '<']) then
    let index ← nextGroup
    readName
    return .inl (.capturing index)
  else if ← accept ['?'] then
    if (← peek).isNone then fail .groupUnclosed span
    let items ← flagItems ((← get).rest.length + 1) []
    match items with
    | (.negation, s) :: _ => fail .flagNegationDangling s
    | _ => pure ()
    let close ← peek
    skip 1
    let changes := flagChanges true (items.reverse.map Prod.fst)
    modify fun s => { s with extended := extendedAfter s.extended changes }
    if close == some ')' then
      if items.isEmpty then fail .repetitionMissing inner
      return .inr changes
    return .inl (.flags changes)
  else return .inl (.capturing (← nextGroup))

/-! ## The whole pattern -/

/-- The end of a group, whose parenthesis is next; `inner` is what the group holds. -/
def closeGroup (frames : List Frame) (inner : PatternTree) : Read (List Frame × Items) :=
  match frames with
  | .group outer opening kind extended :: rest => do
    modify fun s => { s with extended := extended }
    skip 1
    return (rest, outer.push (.group (← spanFrom opening.start) kind inner))
  | _ => do fail .groupUnopened (← charSpan)

/-- One item of a pattern: `frames` are the open groups and alternatives, `u` the sequence so far. -/
def readItem (c : Char) (frames : List Frame) (u : Items) : Read (List Frame × Items) := do
  let start ← position
  if c = '(' then
    let extended := (← get).extended
    match ← readOpening with
    | .inl kind =>
      return (.group u ⟨start, start + 1⟩ kind extended :: frames, ⟨← position, []⟩)
    | .inr changes => return (frames, u.push (.flags (← spanFrom start) changes))
  else if c = ')' then
    match frames with
    | .branches first done :: rest => closeGroup rest (alternativesOf first start done (u.toTree start))
    | _ => closeGroup frames (u.toTree start)
  else if c = '|' then
    skip 1
    let branch := u.toTree start
    match frames with
    | .branches first done :: rest =>
      return (.branches first (branch :: done) :: rest, ⟨← position, []⟩)
    | _ => return (.branches u.start [branch] :: frames, ⟨← position, []⟩)
  else if c = '[' then
    return (frames, u.push (← readClass ((← get).rest.length + 1) [] ⟨start, []⟩))
  else if c = '?' || c = '*' || c = '+' then
    let (t, u) ← repeatable u
    skip 1
    let greedy := !(← accept ['?'])
    let least := if c = '+' then 1 else 0
    let most := if c = '?' then some 1 else none
    return (frames, u.push (.repeated (← spanFrom t.span.start) t least most greedy))
  else if c = '\x7b' then
    let (t, u) ← repeatable u
    let (least, most) ← readCounts
    if (← peek) != some '\x7d' then fail .countUnclosed (← spanFrom start)
    let lazy := (← next) == some '?'
    if lazy then skip 1
    if most.any (· < least) then fail .countOrder (← spanFrom start)
    return (frames, u.push (.repeated (← spanFrom t.span.start) t least most !lazy))
  else return (frames, u.push (← readPrimitive))

/-- The pattern at the end of the text; a group that is still open is an error. -/
def finish (frames : List Frame) (u : Items) : Read PatternTree := do
  let stop ← position
  let last := u.toTree stop
  match frames with
  | [] => return last
  | [.branches start done] => return alternativesOf start stop done last
  | .group _ span _ _ :: _ => fail .groupUnclosed span
  | .branches _ _ :: .group _ span _ _ :: _ => fail .groupUnclosed span
  | .branches start done :: .branches _ _ :: _ => return alternativesOf start stop done last

def read : Nat → List Frame → Items → Read PatternTree
  | 0, frames, u => finish frames u
  | fuel + 1, frames, u => do
    skipBlanks
    match ← peek with
    | none => finish frames u
    | some c =>
      let (frames, u) ← readItem c frames u
      read fuel frames u

def depthLimit : Nat := 250

/-- Reads a pattern, which must not be nested too deep. -/
def parse (cs : List Char) : Except PatternError PatternTree :=
  match (read (cs.length + 1) [] ⟨0, []⟩).run ⟨cs, 0, false, 0, []⟩ with
  | .error e => .error e
  | .ok (t, _) =>
    match t.deepest? depthLimit with
    | some span => .error ⟨.nesting, span, none⟩
    | none => .ok t

end PatternTree

end VarSchema
