import VarSchema.Pattern.Anchor

/-!
# Extended patterns

* `ExtendedPattern` : patterns that may look around, refer back to what a group has matched, forbid to try a
  part again, or choose by a condition;
* `ExtendedPattern.isPlain` : whether a part does without these, so that a plain pattern says the same;
  `ExtendedPattern.plainText` : the text of that plain pattern;
* `ExtendedPattern.leastLength`, `ExtendedPattern.hasFixedLength` : the fewest characters of a match, and whether
  all matches have as many.

Anchors at words are not plain here, so that a part with one is tried place by place.
-/

namespace VarSchema

inductive Look where
  | ahead
  | behind
deriving DecidableEq

inductive ExtendedPattern where
  | empty
  /-- Any character, or any but the end of a line. -/
  | any (newline : Bool)
  | literal (c : Char) (ignoreCase : Bool)
  | anchor (a : Anchor)
  /-- The text of a plain pattern whose matches all have `length` characters. -/
  | plain (text : List Char) (length : Nat) (ignoreCase : Bool)
  | sequence (ps : List ExtendedPattern)
  | alternatives (ps : List ExtendedPattern)
  /-- A numbered group. -/
  | group (index : Nat) (p : ExtendedPattern)
  | repeated (p : ExtendedPattern) (least : Nat) (most : Option Nat) (greedy : Bool)
  /-- Holds where `p` matches ahead or behind, or where it does not. -/
  | look (direction : Look) (positive : Bool) (p : ExtendedPattern)
  /-- The first match of `p` only. -/
  | atomic (p : ExtendedPattern)
  /-- What a group has matched last. -/
  | backreference (index : Nat)
  /-- Holds if a group has matched. -/
  | groupMatched (index : Nat)
  | conditional (condition yes no : ExtendedPattern)
  /-- Lets the match that is reported start here. -/
  | keepOut
  /-- The place where the search has started. -/
  | searchStart

namespace ExtendedPattern

instance : Inhabited ExtendedPattern := ⟨.empty⟩

def isEmpty : ExtendedPattern → Bool
  | .empty => true
  | _ => false

/-! ## Plain parts -/

def isWordAnchor : Anchor → Bool
  | .word _ _ => true
  | _ => false

mutual
/-- Whether a plain pattern says the same; `referred` are the groups that are referred to. -/
def isPlain (referred : List Nat) : ExtendedPattern → Bool
  | .empty => true
  | .any _ => true
  | .literal _ _ => true
  | .anchor a => !isWordAnchor a
  | .plain _ _ _ => true
  | .sequence ps => allPlain referred ps
  | .alternatives ps => allPlain referred ps
  | .group i p => !referred.contains i && isPlain referred p
  | .repeated p _ _ _ => isPlain referred p
  | _ => false
termination_by structural p => p

def allPlain (referred : List Nat) : List ExtendedPattern → Bool
  | [] => true
  | p :: rest => isPlain referred p && allPlain referred rest
termination_by structural ps => ps
end

mutual
/-- The characters of a pattern that is a literal text in one case. -/
def literalText? : ExtendedPattern → Option (List Char)
  | .literal c false => some [c]
  | .sequence ps => literalTexts? ps
  | _ => none
termination_by structural p => p

def literalTexts? : List ExtendedPattern → Option (List Char)
  | [] => some []
  | p :: rest =>
    match literalText? p, literalTexts? rest with
    | some a, some b => some (a ++ b)
    | _, _ => none
termination_by structural ps => ps
end

/-! ## Text of plain parts -/

/-- The characters that mean something else than themselves outside of classes. -/
def isSpecial (c : Char) : Bool := "\\.+*?()|[]\x7b\x7d^$#".contains c

def quotedChar (c : Char) : List Char := if isSpecial c then ['\\', c] else [c]

/-- A text in parentheses that only group, if they are needed. -/
def enclosed (needed : Bool) (cs : List Char) : List Char :=
  if needed then "(?:".toList ++ cs ++ [')'] else cs

/-- A text whose letters are matched in any case, if that is wanted. -/
def inAnyCase (wanted : Bool) (cs : List Char) : List Char :=
  if wanted then "(?i:".toList ++ cs ++ [')'] else cs

def digitsOf (n : Nat) : List Char := (toString n).toList

def repetitionText (least : Nat) (most : Option Nat) : List Char :=
  match least, most with
  | 0, some 1 => ['?']
  | 0, none => ['*']
  | 1, none => ['+']
  | least, none => '\x7b' :: digitsOf least ++ [',', '\x7d']
  | least, some most =>
    if least = most then '\x7b' :: digitsOf least ++ ['\x7d']
    else '\x7b' :: digitsOf least ++ ',' :: digitsOf most ++ ['\x7d']

def anchorText : Anchor → List Char
  | .textStart => ['^']
  | .textEnd => ['$']
  | .lineStart => "(?m:^)".toList
  | .lineEnd => "(?m:$)".toList
  | .lineStartCrlf => "(?Rm:^)".toList
  | .lineEndCrlf => "(?Rm:$)".toList
  | .word _ _ => []

mutual
/-- The text of a plain part. It stands in a repetition at level 3, in a sequence at level 2 and in
alternatives at level 1, and is enclosed where it would be torn apart. -/
def plainText (level : Nat) : ExtendedPattern → List Char
  | .any newline => if newline then "(?s:.)".toList else ['.']
  | .literal c ignoreCase => inAnyCase ignoreCase (quotedChar c)
  | .anchor a => anchorText a
  | .plain text _ ignoreCase => inAnyCase ignoreCase text
  | .sequence ps => enclosed (1 < level) (sequenceText ps)
  | .alternatives ps => enclosed (0 < level) (alternativesText ps)
  | .group _ p => '(' :: plainText 0 p ++ [')']
  | .repeated p least most greedy =>
    enclosed (2 < level) (plainText 3 p ++ repetitionText least most ++ if greedy then [] else ['?'])
  | _ => []
termination_by structural p => p

def sequenceText : List ExtendedPattern → List Char
  | [] => []
  | p :: rest => plainText 2 p ++ sequenceText rest
termination_by structural ps => ps

def alternativesText : List ExtendedPattern → List Char
  | [] => []
  | [p] => plainText 1 p
  | p :: rest => plainText 1 p ++ '|' :: alternativesText rest
termination_by structural ps => ps
end

/-! ## Lengths -/

mutual
/-- The fewest characters of a match. -/
def leastLength : ExtendedPattern → Nat
  | .any _ => 1
  | .literal _ _ => 1
  | .plain _ length _ => length
  | .sequence ps => leastTotal ps
  | .alternatives ps => leastOf ps
  | .group _ p => leastLength p
  | .repeated p least _ _ => leastLength p * least
  | .atomic p => leastLength p
  | .conditional c yes no => leastLength c + min (leastLength yes) (leastLength no)
  | _ => 0
termination_by structural p => p

def leastTotal : List ExtendedPattern → Nat
  | [] => 0
  | p :: rest => leastLength p + leastTotal rest
termination_by structural ps => ps

def leastOf : List ExtendedPattern → Nat
  | [] => 0
  | [p] => leastLength p
  | p :: rest => min (leastLength p) (leastOf rest)
termination_by structural ps => ps
end

mutual
/-- Whether all matches are known to have the same number of characters. -/
def hasFixedLength : ExtendedPattern → Bool
  | .sequence ps => allFixedLength ps
  | .alternatives ps => allOfLength (leastOf ps) ps
  | .group _ p => hasFixedLength p
  | .repeated p least most _ => hasFixedLength p && most == some least
  | .atomic p => hasFixedLength p
  | .backreference _ => false
  | .conditional c yes no =>
    hasFixedLength c && hasFixedLength yes && hasFixedLength no &&
      leastLength c + leastLength yes == leastLength no
  | _ => true
termination_by structural p => p

def allFixedLength : List ExtendedPattern → Bool
  | [] => true
  | p :: rest => hasFixedLength p && allFixedLength rest
termination_by structural ps => ps

def allOfLength (n : Nat) : List ExtendedPattern → Bool
  | [] => true
  | p :: rest => hasFixedLength p && leastLength p == n && allOfLength n rest
termination_by structural ps => ps
end

end ExtendedPattern

end VarSchema
