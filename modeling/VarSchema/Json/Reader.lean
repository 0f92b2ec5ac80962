import VarSchema.Form
import VarSchema.Json.Basic
import VarSchema.Number.Reader

/-!
# Reading JSON texts

A JSON text is read by a machine with a stack of open arrays and objects, one character at a time
(`Reader.step`), so that reading ends with the text. The grammar is strict: no comments, no trailing
commas or text, no control characters in texts, no half of a surrogate pair, and no number beyond the
finite ones. What is ignored by the form of the text becomes null; it may be nested without limit and hold
numbers of any size and halves of surrogate pairs.

* `Json.read?` : the value as written, with entries in the order of the text and repeated keys kept;
* `Json.ofText?` : its canonical form, when no part is ignored;
* `Reader.maxDepth` : how many arrays and objects may be open at once.
-/

namespace VarSchema

namespace Reader

/-- An open container of some form: what it holds so far, the latest first. -/
inductive Frame where
  | items (form : Form) (count : Nat) (done : List Json)
  | fields (form : Form) (done : List (String × Json))
  | entry (form : Form) (done : List (String × Json)) (key : String)

/-- Where the machine stands in an escape. -/
inductive Escape where
  | none
  | backslash
  /-- `left` digits of a code unit are missing; `high` is the first half of a pair. -/
  | digits (high : Option Nat) (left : Nat) (value : Nat)
  /-- The second half of a pair must follow. -/
  | pairBackslash (high : Nat)
  | pairLetter (high : Nat)

/-- What the machine expects. -/
inductive Mode where
  /-- A value, or `]` if the array may close. -/
  | value (closable : Bool)
  /-- A key, or a closing brace if the object may close. -/
  | key (closable : Bool)
  | colon (key : String)
  /-- More of a text, the latest character first. -/
  | text (isKey ignored : Bool) (done : List Char) (escape : Escape)
  /-- More of a number, the latest character first. -/
  | number (ignored : Bool) (done : List Char)
  /-- The rest of `null`, `true` or `false`. -/
  | word (rest : List Char) (value : Json)
  /-- A comma or the end of the container. -/
  | more
  /-- Only blanks. -/
  | finished (value : Json)

/-- The open containers, innermost first, and what is expected. -/
structure State where
  stack : List Frame
  mode : Mode

/-- The number of containers that may be open at once. -/
def maxDepth : Nat := 127

def isBlank (c : Char) : Bool := c = ' ' || c = '\n' || c = '\t' || c = '\r'

def isNumberChar (c : Char) : Bool :=
  c.isDigit || c = '+' || c = '-' || c = '.' || c = 'e' || c = 'E'

/-- The form of the value that comes next; `whole` is that of the text. -/
def nextForm (whole : Form) : List Frame → Form
  | [] => whole
  | .items form count _ :: _ => form.item count
  | .entry form _ k :: _ => form.field k
  | .fields form _ :: _ => form

/-- A value ends. -/
def complete (v : Json) : List Frame → Option State
  | [] => some ⟨[], .finished v⟩
  | .items form count done :: rest => some ⟨.items form (count + 1) (v :: done) :: rest, .more⟩
  | .entry form done k :: rest => some ⟨.fields form ((k, v) :: done) :: rest, .more⟩
  | .fields _ _ :: _ => none

def close (c : Char) : List Frame → Option State
  | .items _ _ done :: rest => if c = ']' then complete (.arr done.reverse) rest else none
  | .fields _ done :: rest => if c = '\x7d' then complete (.obj done.reverse) rest else none
  | _ => none

def start (depth : Nat) (form : Form) (stack : List Frame) (c : Char) : Option State :=
  let mayOpen := form.isIgnored || decide (stack.length < depth)
  if c = '"' then some ⟨stack, .text false form.isIgnored [] .none⟩
  else if c = '[' then if mayOpen then some ⟨.items form 0 [] :: stack, .value true⟩ else none
  else if c = '\x7b' then if mayOpen then some ⟨.fields form [] :: stack, .key true⟩ else none
  else if c = 'n' then some ⟨stack, .word ['u', 'l', 'l'] .null⟩
  else if c = 't' then some ⟨stack, .word ['r', 'u', 'e'] (.bool true)⟩
  else if c = 'f' then some ⟨stack, .word ['a', 'l', 's', 'e'] (.bool false)⟩
  else if c = '-' || c.isDigit then some ⟨stack, .number form.isIgnored [c]⟩
  else none

/-- The character of an escape of one letter. -/
def shortEscape? : Char → Option Char
  | '"' => some '"'
  | '\\' => some '\\'
  | '/' => some '/'
  | 'b' => some '\x08'
  | 'f' => some '\x0c'
  | 'n' => some '\n'
  | 'r' => some '\r'
  | 't' => some '\t'
  | _ => none

/-- A code unit is complete: a character, or the first half of a pair. -/
def unit? (ignored : Bool) (done : List Char) (high : Option Nat) (v : Nat) : Option (List Char × Escape) :=
  if ignored then some (done, .none)
  else
    match high with
    | none =>
      if 0xD800 ≤ v ∧ v < 0xDC00 then some (done, .pairBackslash v)
      else if 0xDC00 ≤ v ∧ v < 0xE000 then none
      else some (Char.ofNat v :: done, .none)
    | some high =>
      if 0xDC00 ≤ v ∧ v < 0xE000 then
        some (Char.ofNat (0x10000 + (high - 0xD800) * 0x400 + (v - 0xDC00)) :: done, .none)
      else none

/-- One character inside a text; the closing mark is not for here. -/
def textStep? (ignored : Bool) (done : List Char) (c : Char) : Escape → Option (List Char × Escape)
  | .none =>
    if c = '\\' then some (done, .backslash)
    else if c.toNat < 0x20 then none
    else some (c :: done, .none)
  | .backslash =>
    if c = 'u' then some (done, .digits none 4 0)
    else (shortEscape? c).map fun d => (d :: done, .none)
  | .digits high left value =>
    (hexValue? c).bind fun d =>
      let v := 16 * value + d
      if left = 1 then unit? ignored done high v else some (done, .digits high (left - 1) v)
  | .pairBackslash high => if c = '\\' then some (done, .pairLetter high) else none
  | .pairLetter high => if c = 'u' then some (done, .digits (some high) 4 0) else none

def endText (stack : List Frame) (isKey ignored : Bool) (done : List Char) : Option State :=
  let s := String.ofList done.reverse
  if isKey then some ⟨stack, .colon s⟩ else complete (if ignored then .null else .str s) stack

/-- The value of a number; of one that is ignored only the grammar matters. -/
def numberValue? (ignored : Bool) (cs : List Char) : Option Json :=
  if ignored then (Numeral.ofChars? cs).map fun _ => .null else (Number.ofChars? cs).map .num

def endNumber (stack : List Frame) (ignored : Bool) (done : List Char) : Option State :=
  (numberValue? ignored done.reverse).bind fun v => complete v stack

/-- One character, none of a number that is being read. -/
def plainStep (whole : Form) (depth : Nat) (s : State) (c : Char) : Option State :=
  match s.mode with
  | .value closable =>
    if isBlank c then some s
    else if c = ']' && closable then close c s.stack
    else start depth (nextForm whole s.stack) s.stack c
  | .key closable =>
    if isBlank c then some s
    else if c = '"' then some ⟨s.stack, .text true (nextForm whole s.stack).isIgnored [] .none⟩
    else if c = '\x7d' && closable then close c s.stack
    else none
  | .colon k =>
    if isBlank c then some s
    else if c = ':' then
      match s.stack with
      | .fields form done :: rest => some ⟨.entry form done k :: rest, .value false⟩
      | _ => none
    else none
  | .text isKey ignored done .none =>
    if c = '"' then endText s.stack isKey ignored done
    else (textStep? ignored done c .none).map fun (done, e) => ⟨s.stack, .text isKey ignored done e⟩
  | .text isKey ignored done e =>
    (textStep? ignored done c e).map fun (done, e) => ⟨s.stack, .text isKey ignored done e⟩
  | .word (d :: rest) v =>
    if c = d then if rest.isEmpty then complete v s.stack else some ⟨s.stack, .word rest v⟩
    else none
  | .word [] _ => none
  | .number _ _ => none
  | .more =>
    if isBlank c then some s
    else if c = ',' then
      match s.stack with
      | .items _ _ _ :: _ => some ⟨s.stack, .value false⟩
      | .fields _ _ :: _ => some ⟨s.stack, .key false⟩
      | _ => none
    else close c s.stack
  | .finished _ => if isBlank c then some s else none

def step (whole : Form) (depth : Nat) (s : State) (c : Char) : Option State :=
  match s.mode with
  | .number ignored done =>
    if isNumberChar c then some ⟨s.stack, .number ignored (c :: done)⟩
    else (endNumber s.stack ignored done).bind fun s => plainStep whole depth s c
  | _ => plainStep whole depth s c

def finish (s : State) : Option Json :=
  match s.mode with
  | .finished v => some v
  | .number ignored done =>
    (endNumber s.stack ignored done).bind fun s => match s.mode with
      | .finished v => some v
      | _ => none
  | _ => none

/-- Reads a text of some form with at most `depth` open containers. -/
def run? (form : Form) (depth : Nat) (cs : List Char) : Option Json :=
  (cs.foldlM (step form depth) ⟨[], .value false⟩).bind finish

end Reader

namespace Json

/-- The value of a text of some form as written, repeated keys and all. -/
def read? (form : Form) (s : String) : Option Json := Reader.run? form Reader.maxDepth s.toList

/-- The value of a text, of repeated keys the last one staying. -/
def ofText? (s : String) : Option Json := (read? .value s).map canonical

end Json

end VarSchema
