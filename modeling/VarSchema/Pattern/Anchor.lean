import VarSchema.Unicode.Property

/-!
# Conditions on places

* `Anchor` : conditions on the place between two characters;
* `Anchor.holds` : whether a condition holds, by the characters at both sides of the place.
-/

namespace VarSchema

inductive WordAnchor where
  | boundary
  | notBoundary
  | start
  | stop
  | startHalf
  | stopHalf
deriving DecidableEq

/-- A condition on the place between two characters. -/
inductive Anchor where
  | textStart
  | textEnd
  | lineStart
  | lineEnd
  /-- Like the start of a line, where a carriage return also ends lines. -/
  | lineStartCrlf
  | lineEndCrlf
  /-- A condition on words, of ASCII characters or of any script. -/
  | word (kind : WordAnchor) (ascii : Bool)
deriving DecidableEq

namespace CharSet

/-- Letters, digits and the underscore of ASCII. -/
def asciiWord : CharSet := .ofTable "30-39 41-5a 5f 61-7a"

end CharSet

namespace WordAnchor

/-- Whether the condition holds, by whether the characters at both sides are part of words. -/
def holds (k : WordAnchor) (before next : Bool) : Bool :=
  match k with
  | boundary => before != next
  | notBoundary => before == next
  | start => !before && next
  | stop => before && !next
  | startHalf => !before
  | stopHalf => !next

end WordAnchor

namespace Anchor

def inWord (ascii : Bool) (c : Option Char) : Bool :=
  c.any (if ascii then CharSet.asciiWord else Derived.word).has

def holds (a : Anchor) (before next : Option Char) : Bool :=
  match a with
  | textStart => before.isNone
  | textEnd => next.isNone
  | lineStart => before.isNone || before == some '\n'
  | lineEnd => next.isNone || next == some '\n'
  | lineStartCrlf =>
    before.isNone || before == some '\n' || (before == some '\r' && next != some '\n')
  | lineEndCrlf => next.isNone || next == some '\r' || (next == some '\n' && before != some '\r')
  | word kind ascii => kind.holds (inWord ascii before) (inWord ascii next)

end Anchor

end VarSchema
