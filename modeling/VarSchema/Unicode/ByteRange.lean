import VarSchema.Unicode.CharSet

/-!
# Sets of characters as sequences of bytes

`CharSet.byteSequences` gives a set as sequences of ranges of bytes: the encodings of its characters are the
texts of bytes of which each lies in the range at its position of one of the sequences.
-/

namespace VarSchema

namespace ByteRange

def encode (n : Nat) : List Nat :=
  if n < 0x80 then [n]
  else if n < 0x800 then [0xC0 + n / 0x40, 0x80 + n % 0x40]
  else if n < 0x10000 then [0xE0 + n / 0x1000, 0x80 + n / 0x40 % 0x40, 0x80 + n % 0x40]
  else [0xF0 + n / 0x40000, 0x80 + n / 0x1000 % 0x40, 0x80 + n / 0x40 % 0x40, 0x80 + n % 0x40]

/-- Where a range is divided because the last bytes of its ends do not run from the first to the last
possible ones; `block` is the number of code points that share the bytes before them. -/
def blockEnd? (lo hi block : Nat) : Option Nat :=
  if lo / block = hi / block then none
  else if lo % block ≠ 0 then some (lo / block * block + block - 1)
  else if hi % block ≠ block - 1 then some (hi / block * block - 1)
  else none

/-- The last code point of the first half, if the range is no sequence of byte ranges. -/
def divide? (lo hi : Nat) : Option Nat :=
  match [0x7F, 0x7FF, 0xFFFF].find? fun m => decide (lo ≤ m ∧ m < hi) with
  | some m => some m
  | none => if hi < 0x80 then none else [0x40, 0x1000, 0x40000].findSome? (blockEnd? lo hi)

def sequences (lo hi : Nat) : List (List (Nat × Nat)) :=
  match divide? lo hi with
  | none => [(encode lo).zip (encode hi)]
  | some m =>
    if lo ≤ m ∧ m < hi then sequences lo m ++ sequences (m + 1) hi else [(encode lo).zip (encode hi)]
termination_by hi - lo

/-- A range without surrogates. -/
def scalars (lo hi : Nat) : List (Nat × Nat) :=
  if lo < 0xE000 ∧ 0xD7FF < hi then
    [(lo, 0xD7FF), (0xE000, hi)].filter fun r => r.1 ≤ r.2
  else [(lo, hi)]

end ByteRange

def CharSet.byteSequences (s : CharSet) : List (List (Nat × Nat)) :=
  (s.ranges.flatMap fun (lo, hi) => ByteRange.scalars lo hi).flatMap fun (lo, hi) =>
    ByteRange.sequences lo hi

end VarSchema
