import VarSchema.Pattern.Reader

/-!
# Portable patterns

`portablePattern?` writes a pattern so that its letter classes mean the same everywhere: digits, word characters
and blanks are spelt out. A control character by its letter becomes that character, and a bell behind a
backslash is refused. A pattern that looks around stays as it is.
-/

namespace VarSchema

def LetterClass.listed : LetterClass → List Char
  | digit => "0-9".toList
  | word => "A-Za-z0-9_".toList
  | space => " \t\n\r\x0b\x0c\u00a0\ufeff\u2003\u2029".toList

def LetterClass.spelt (c : LetterClass) (negated : Bool) : List Char :=
  '[' :: (if negated then ['^'] else []) ++ c.listed ++ [']']

namespace ClassTree

mutual
/-- The first class of a letter inside a class, and what it is spelt as. -/
def letterClass? : ClassTree → Option (Span × List Char)
  | .named span negated (.letter c) => some (span, c.spelt negated)
  | .bracketed _ _ inner => letterClass? inner
  | .union _ items => letterClassOf? items
  | .op _ _ lhs rhs => (letterClass? lhs).or (letterClass? rhs)
  | _ => none
termination_by structural t => t

def letterClassOf? : List ClassTree → Option (Span × List Char)
  | [] => none
  | t :: rest => (letterClass? t).or (letterClassOf? rest)
termination_by structural ts => ts
end

end ClassTree

namespace PatternTree

mutual
/-- The first class of a letter inside a pattern, and what it is spelt as. -/
def letterClass? : PatternTree → Option (Span × List Char)
  | .named span negated (.letter c) => some (span, c.spelt negated)
  | .bracketed _ _ inner => inner.letterClass?
  | .repeated _ inner _ _ _ => letterClass? inner
  | .group _ _ inner => letterClass? inner
  | .alternatives _ branches => letterClassOf? branches
  | .sequence _ items => letterClassOf? items
  | _ => none
termination_by structural t => t

def letterClassOf? : List PatternTree → Option (Span × List Char)
  | [] => none
  | t :: rest => (letterClass? t).or (letterClassOf? rest)
termination_by structural ts => ts
end

mutual
/-- Whether a bell is written behind a backslash outside of classes. -/
def hasBell : PatternTree → Bool
  | .literal l => l.form = .bell
  | .repeated _ inner _ _ _ => hasBell inner
  | .group _ _ inner => hasBell inner
  | .alternatives _ branches => anyBell branches
  | .sequence _ items => anyBell items
  | _ => false
termination_by structural t => t

def anyBell : List PatternTree → Bool
  | [] => false
  | t :: rest => hasBell t || anyBell rest
termination_by structural ts => ts
end

end PatternTree

namespace Portable

/-- A text with other characters in place of a part. -/
def replace (cs : List Char) (span : Span) (new : List Char) : List Char :=
  cs.take span.start ++ new ++ cs.drop span.stop

/-- The control character of a letter behind `\c`. -/
def controlChar? (cs : List Char) (span : Span) : Option Char :=
  if (cs.drop span.start).take 2 = ['\\', 'c'] ∧ span.stop = span.start + 2 then
    match cs[span.stop]? with
    | some c => if c.isAlpha then some (Char.ofNat (c.toNat % 32)) else none
    | none => none
  else none

/-- The pattern as text with control characters in place of letters, and as it is read; nothing is read of a
pattern that looks around. Each turn shortens the text, so its length bounds the turns. -/
def withControls? : Nat → List Char → Option (List Char × Option PatternTree)
  | 0, _ => none
  | fuel + 1, cs =>
    match PatternTree.parse cs with
    | .ok t => some (cs, some t)
    | .error e =>
      match e.fault with
      | .lookAround => some (cs, none)
      | .escapeUnknown => do
        let c ← controlChar? cs e.span
        withControls? fuel (replace cs ⟨e.span.start, e.span.stop + 1⟩ [c])
      | _ => none

/-- The pattern with classes of letters spelt out one by one. Their number, less than the length of the text at
first, bounds the turns. -/
def withClasses? : Nat → List Char → PatternTree → Option (List Char)
  | 0, _, _ => none
  | fuel + 1, cs, t =>
    match t.letterClass? with
    | none => if t.hasBell then none else some cs
    | some (span, new) =>
      let cs := replace cs span new
      match PatternTree.parse cs with
      | .ok t => withClasses? fuel cs t
      | .error _ => none

end Portable

/-- The pattern in portable form, if there is one. -/
def portablePattern? (cs : List Char) : Option (List Char) := do
  let (cs, t) ← Portable.withControls? (cs.length + 1) cs
  match t with
  | none => some cs
  | some t => Portable.withClasses? (cs.length + 1) cs t

end VarSchema
