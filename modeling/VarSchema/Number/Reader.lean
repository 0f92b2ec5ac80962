import VarSchema.Number.Basic
import VarSchema.Text.Digit

/-!
# Reading numbers

* `Numeral` : the parts of a decimal numeral, read by `Numeral.ofChars?` in the grammar of JSON;
* `Numeral.toNumber?` : the number a JSON text means. A numeral without point and exponent that fits 64
  bits is whole; any other is a binary64, got from a 64-bit significand and a power of ten with one
  rounding for each of the two and one for their product; `none` when it is not finite;
* `Binary64.ofDecimal` : a decimal with one rounding.
-/

namespace VarSchema

namespace Binary64

/-- The number nearest to `± c * 10 ^ e`. -/
def ofDecimal (negative : Bool) (c : Nat) (e : Int) : Binary64 :=
  ofRatio negative (c * tenPow e.toNat * one) (tenPow (-e).toNat)

/-- The number nearest to `10 ^ k`, zero if there is none. -/
def ofTenPow (k : Nat) : Finite :=
  match ofInt (tenPow k) with
  | .finite x => x
  | _ => default

/-- The largest power of ten that a binary64 holds. -/
def maxTenPow : Nat := 308

/-- `x * 10 ^ e`, a division taking at most `10 ^ 308` at once; `none` beyond the finite numbers. -/
def Finite.scale? (x : Finite) (e : Int) : Option Finite :=
  if x.magnitude = 0 then some x
  else if maxTenPow < e then none
  else if 0 ≤ e then x.mul? (ofTenPow e.toNat)
  else if -maxTenPow ≤ e then x.div? (ofTenPow (-e).toNat)
  else if -2 * maxTenPow ≤ e then
    (x.div? (ofTenPow maxTenPow)).bind (·.div? (ofTenPow (-e - maxTenPow).toNat))
  else some default

end Binary64

/-- The parts of a numeral: its digits before and behind the point, and its power of ten. -/
structure Numeral where
  negative : Bool
  whole : List Char
  fraction : Option (List Char)
  exponent : Option Int

namespace Numeral

def exponentOf? (cs : List Char) : Option Int :=
  let (negative, digits) := match cs with
    | '-' :: rest => (true, rest)
    | '+' :: rest => (false, rest)
    | rest => (false, rest)
  if digits.isEmpty || !digits.all Char.isDigit then none
  else some (if negative then -(digitsValue digits : Int) else digitsValue digits)

/-- What follows the digits of the significand. -/
def exponentPart? (n : Numeral) : List Char → Option Numeral
  | [] => some n
  | c :: rest =>
    if c = 'e' || c = 'E' then (exponentOf? rest).map fun e => { n with exponent := some e }
    else none

/-- What follows the digits before the point. -/
def fractionPart? (n : Numeral) : List Char → Option Numeral
  | '.' :: rest =>
    let (digits, tail) := spanDigits rest
    if digits.isEmpty then none else exponentPart? { n with fraction := some digits } tail
  | rest => exponentPart? n rest

/-- A numeral without its sign. No zero leads other digits. -/
def unsigned? (negative : Bool) (cs : List Char) : Option Numeral :=
  let (digits, tail) := spanDigits cs
  if digits.isEmpty || (digits.length > 1 && digits.head? == some '0') then none
  else fractionPart? ⟨negative, digits, none, none⟩ tail

def ofChars? : List Char → Option Numeral
  | '-' :: rest => unsigned? true rest
  | cs => unsigned? false cs

/-- Appends digits before the point; from the first that does not fit, each digit counts as a power of
ten. -/
def wholePart : List Char → Nat → Nat × Int
  | [], n => (n, 0)
  | c :: rest, n =>
    let next := 10 * n + (c.toNat - '0'.toNat)
    if next < Number.wordLimit then wholePart rest next else (n, rest.length + 1)

/-- Appends digits behind the point up to the first that does not fit. -/
def fractionDigits : List Char → Nat → Int → Nat × Int
  | [], n, e => (n, e)
  | c :: rest, n, e =>
    let next := 10 * n + (c.toNat - '0'.toNat)
    if next < Number.wordLimit then fractionDigits rest next (e - 1) else (n, e)

def toFinite? (n : Numeral) : Option Binary64.Finite :=
  let (whole, shift) := wholePart n.whole 0
  let (significand, e) := fractionDigits (n.fraction.getD []) whole shift
  match Binary64.ofInt significand with
  | .finite x => (x.scale? (e + n.exponent.getD 0)).map
      fun y => if n.negative then y.neg else y
  | _ => none

/-- The number that a numeral means. `-0` is a float, since no whole number has that sign. -/
def toNumber? (n : Numeral) : Option Number :=
  let value := digitsValue n.whole
  if n.fraction.isNone && n.exponent.isNone &&
      (if n.negative then decide (0 < value ∧ value ≤ Number.wholeLimit)
        else decide (value < Number.wordLimit)) then
    some (.integer (if n.negative then -(value : Int) else value))
  else n.toFinite?.map .float

end Numeral

def Number.ofChars? (cs : List Char) : Option Number :=
  (Numeral.ofChars? cs).bind Numeral.toNumber?

end VarSchema
