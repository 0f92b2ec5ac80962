import VarSchema.Text.Quoted

/-!
# Errors of patterns

* `PatternFault` : what is wrong; `PatternFault.text` : its wording;
* `Span` : a part of the pattern, as character offsets;
* `PatternError.lines` : the report on an error, the pattern with the faulty part underlined;
  `PatternError.detail` : the report on one line;
* `PatternFailure` : why a text gives no pattern: an error, or a pattern that is too large.
-/

namespace VarSchema

inductive PatternFault where
  | classEscape
  | classRangeOrder
  | classRangeLiteral
  | classUnclosed
  | decimal
  | hexEmpty
  | hexScalar
  | hexDigit
  | escapeEnd
  | escapeUnknown
  | flagNegationDangling
  | flagNegationRepeated
  | flagDuplicate
  | flagEnd
  | flagUnknown
  | nameDuplicate
  | nameEmpty
  | nameInvalid
  | nameUnclosed
  | groupUnclosed
  | groupUnopened
  | countOrder
  | countEmpty
  | countUnclosed
  | repetitionMissing
  | boundaryUnclosed
  | boundaryUnknown
  | boundaryOrCountEnd
  | propertyInvalid
  | propertyUnknown
  | propertyValueUnknown
  | backreference
  | lookAround
  | nesting
  | unicode
  | partialCharacter
deriving DecidableEq

def PatternFault.text : PatternFault → String
  | classEscape => "invalid escape sequence found in character class"
  | classRangeOrder => "invalid character class range, the start must be <= the end"
  | classRangeLiteral => "invalid range boundary, must be a literal"
  | classUnclosed => "unclosed character class"
  | decimal => "decimal literal invalid"
  | hexEmpty => "hexadecimal literal empty"
  | hexScalar => "hexadecimal literal is not a Unicode scalar value"
  | hexDigit => "invalid hexadecimal digit"
  | escapeEnd => "incomplete escape sequence, reached end of pattern prematurely"
  | escapeUnknown => "unrecognized escape sequence"
  | flagNegationDangling => "dangling flag negation operator"
  | flagNegationRepeated => "flag negation operator repeated"
  | flagDuplicate => "duplicate flag"
  | flagEnd => "expected flag but got end of regex"
  | flagUnknown => "unrecognized flag"
  | nameDuplicate => "duplicate capture group name"
  | nameEmpty => "empty capture group name"
  | nameInvalid => "invalid capture group character"
  | nameUnclosed => "unclosed capture group name"
  | groupUnclosed => "unclosed group"
  | groupUnopened => "unopened group"
  | countOrder => "invalid repetition count range, the start must be <= the end"
  | countEmpty => "repetition quantifier expects a valid decimal"
  | countUnclosed => "unclosed counted repetition"
  | repetitionMissing => "repetition operator missing expression"
  | boundaryUnclosed =>
    "special word boundary assertion is either unclosed or contains an invalid character"
  | boundaryUnknown => "unrecognized special word boundary assertion, valid choices are: " ++
    "start, end, start-half or end-half"
  | boundaryOrCountEnd => "found either the beginning of a special word boundary or a bounded " ++
    "repetition on a \\b with an opening brace, but no closing brace"
  | propertyInvalid => "invalid Unicode character class"
  | propertyUnknown => "Unicode property not found"
  | propertyValueUnknown => "Unicode property value not found"
  | backreference => "backreferences are not supported"
  | lookAround => "look-around, including look-ahead and look-behind, is not supported"
  | nesting => "exceed the maximum number of nested parentheses/brackets (250)"
  | unicode => "Unicode not allowed here"
  | partialCharacter => "pattern can match invalid UTF-8"

/-- A part of a pattern: the offsets of its first character and of the one behind it. -/
structure Span where
  start : Nat
  stop : Nat
deriving DecidableEq

/-- An error: what is wrong, where, and for a repetition of something also the first occurrence. -/
structure PatternError where
  fault : PatternFault
  span : Span
  earlier : Option Span
deriving DecidableEq

/-! ## Blanks and lines -/

def isWhite (c : Char) : Bool :=
  let n := c.toNat
  decide ((0x9 ≤ n ∧ n ≤ 0xD) ∨ n = 0x20 ∨ n = 0x85 ∨ n = 0xA0 ∨ n = 0x1680 ∨
    (0x2000 ≤ n ∧ n ≤ 0x200A) ∨ n = 0x2028 ∨ n = 0x2029 ∨ n = 0x202F ∨ n = 0x205F ∨ n = 0x3000)

/-- A line without the blanks at both ends. -/
def trimmed (cs : List Char) : List Char :=
  ((cs.dropWhile isWhite).reverse.dropWhile isWhite).reverse

/-- The lines of a text; a line break at the end starts no line. -/
def textLines (cs : List Char) : List (List Char) :=
  match cs.splitOn '\n' |>.reverse with
  | [] :: rest => rest.reverse
  | lines => lines.reverse

namespace PatternError

/-- The line and column of an offset, from zero. -/
def position (pattern : List Char) (offset : Nat) : Nat × Nat :=
  let before := pattern.take offset
  (before.count '\n', (before.reverse.takeWhile (· ≠ '\n')).length)

def copies (n : Nat) (c : Char) : List Char := List.replicate n c

/-- Marks under the columns from `start` to `stop`, at least one, behind what is already written. -/
def underline (written : List Char) (start stop : Nat) : List Char :=
  written ++ copies (start - written.length) ' ' ++ copies (max 1 (stop - start)) '^'

def spans (e : PatternError) : List Span :=
  match e.earlier with
  | none => [e.span]
  | some o => if o.start ≤ e.span.start then [o, e.span] else [e.span, o]

/-- The spans that lie on one line, as columns. -/
def columnsOn (pattern : List Char) (spans : List Span) (line : Nat) : List (Nat × Nat) :=
  spans.filterMap fun s =>
    let (l, c) := position pattern s.start
    let (m, d) := position pattern s.stop
    if l = line ∧ m = line then some (c, d) else none

def remark? (pattern : List Char) (s : Span) : Option (List Char) :=
  let (l, c) := position pattern s.start
  let (m, d) := position pattern s.stop
  if l = m then none
  else some ("on line " ++ toString (l + 1) ++ " (column " ++ toString (c + 1) ++ ") through line " ++
    toString (m + 1) ++ " (column " ++ toString d ++ ")").toList

/-- A line of the pattern with its number, and the marks under it. -/
def numberedLine (width : Nat) (pattern : List Char) (spans : List Span) (i : Nat) (line : List Char) :
    List (List Char) :=
  let number := (toString (i + 1)).toList
  let shown := if width = 0 then copies 4 ' ' ++ line
    else copies (width - number.length) ' ' ++ number ++ [':', ' '] ++ line
  let columns := columnsOn pattern spans i
  if columns.isEmpty then [shown]
  else
    let padding := if width = 0 then 4 else 2 + width
    [shown, copies padding ' ' ++ columns.foldl (fun w (c, d) => underline w c d) []]

def lines (pattern : List Char) (e : PatternError) : List (List Char) :=
  let patternLines := textLines pattern
  let count := patternLines.length + if pattern.getLast? = some '\n' then 1 else 0
  let width := if count ≤ 1 then 0 else (toString count).length
  let body := (patternLines.mapIdx (numberedLine width pattern e.spans)).flatten
  let wording := ("error: " ++ e.fault.text).toList
  let title := "regex parse error:".toList
  if pattern.contains '\n' then
    let divider := copies 79 '~'
    let remarks := e.spans.filterMap (remark? pattern)
    [title, divider] ++ body ++ [divider] ++ remarks ++ [wording]
  else title :: body ++ [wording]

/-- The report on one line: its lines without blanks at their ends, joined by blanks. -/
def detail (pattern : String) (e : PatternError) : String :=
  " ".intercalate ((e.lines pattern.toList).map fun l => String.ofList (trimmed l))

end PatternError

/-- Why a text gives no pattern. -/
inductive PatternFailure where
  | invalid (error : PatternError)
  | tooLarge
deriving DecidableEq

def PatternFailure.detail (pattern : String) : PatternFailure → String
  | invalid e => e.detail pattern
  | tooLarge => "Compiled regex exceeds size limit of 10485760 bytes."

end VarSchema
