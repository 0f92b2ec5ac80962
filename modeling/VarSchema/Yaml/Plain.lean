import VarSchema.Json.Basic
import VarSchema.Number.Reader

/-!
# What plain scalars mean

* `Plain.value?` : null, a boolean, a number or else the text itself; `none` for a whole number that is
  too large for 64 bits but not for 128;
* `Plain.isNull`, `Plain.bool?`, `Plain.whole?`, `Plain.float?` : the parts of the rule.

Whole numbers are decimal, or hexadecimal, octal and binary behind `0x`, `0o` and `0b`. Digits behind a
leading zero are a text. A float that is not finite is null in JSON, or a text if it is merely too large.
-/

namespace VarSchema

namespace Yaml.Plain

def isNullWord (s : String) : Bool := ["null", "Null", "NULL", "~"].contains s

/-- Nothing, or a word for null. -/
def isNull (s : String) : Bool := s = "" || isNullWord s

def bool? (s : String) : Option Bool :=
  if ["true", "True", "TRUE"].contains s then some true
  else if ["false", "False", "FALSE"].contains s then some false
  else none

/-! ## Whole numbers -/

/-- Whether digits behind a leading zero make a text of what looks like a number. -/
def isPadded (digits : List Char) : Bool :=
  decide (1 < digits.length) && digits.head? == some '0' && digits.all Char.isDigit

def inBase? (base : Nat) (digits : List Char) : Option Nat :=
  if digits.isEmpty then none
  else digits.foldlM (fun n c => (hexValue? c).bind fun d =>
    if d < base then some (base * n + d) else none) 0

def magnitude? : List Char → Option Nat
  | '0' :: 'x' :: digits => inBase? 16 digits
  | '0' :: 'o' :: digits => inBase? 8 digits
  | '0' :: 'b' :: digits => inBase? 2 digits
  | digits => if isPadded digits then none else inBase? 10 digits

/-- The sign of a number, `true` for minus, and what follows it. -/
def signed : List Char → Bool × List Char
  | '-' :: rest => (true, rest)
  | '+' :: rest => (false, rest)
  | rest => (false, rest)

def whole? (cs : List Char) : Option Int :=
  let (negative, rest) := signed cs
  (magnitude? rest).map fun n => if negative then -(n : Int) else n

/-! ## Floats -/

/-- A decimal: digits with at most one point and an exponent, at least one digit before the exponent. -/
def decimal? (cs : List Char) : Option (Nat × Int) :=
  let (whole, tail) := spanDigits cs
  let (fraction, tail) := match tail with
    | '.' :: rest => spanDigits rest
    | _ => ([], tail)
  let exponent : Option Int := match tail with
    | [] => some 0
    | c :: rest => if c = 'e' || c = 'E' then Numeral.exponentOf? rest else none
  if whole.isEmpty && fraction.isEmpty then none
  else exponent.map fun e => (digitsValue (whole ++ fraction), e - fraction.length)

/-- The binary64 nearest to a decimal. Beyond four hundred places it is zero or infinite. -/
def nearest (negative : Bool) (c : Nat) (e : Int) : Binary64 :=
  let lead := e + (Nat.toDigits 10 c).length
  if c = 0 || lead < -400 then .finite { (default : Binary64.Finite) with negative := negative }
  else if 400 < lead then .infinite negative
  else .ofDecimal negative c e

def float? (s : String) : Option Binary64 :=
  let (negative, rest) := signed s.toList
  if [".inf", ".Inf", ".INF"].contains (String.ofList rest) then some (.infinite negative)
  else if [".nan", ".NaN", ".NAN"].contains s then some .nan
  else
    (decimal? rest).bind fun (c, e) =>
      match nearest negative c e with
      | .finite x => some (.finite x)
      | _ => none

/-! ## Values -/

/-- The first magnitude that is no whole number any more, for a sign. -/
def wideLimit (negative : Bool) : Int := if negative then twoPow 127 + 1 else twoPow 128

def ofFloat : Binary64 → Json
  | .finite x => .num (.float x)
  | _ => .null

/-- The value of a text that is no whole number. -/
def floatOrText (s : String) : Json :=
  if isPadded (signed s.toList).2 then .str s
  else
    match float? s with
    | some x => ofFloat x
    | none => .str s

/-- The value of a whole number, if it fits 64 bits. -/
def ofWhole? (n : Int) : Option Json :=
  if -(Number.wholeLimit : Int) ≤ n ∧ n < Number.wordLimit then some (.int n) else none

def value? (s : String) : Option Json :=
  if isNull s then some .null
  else
    match bool? s, whole? s.toList with
    | some b, _ => some (.bool b)
    | none, some n => if n.natAbs < wideLimit (n < 0) then ofWhole? n else some (floatOrText s)
    | none, none => some (floatOrText s)

end Yaml.Plain

end VarSchema
