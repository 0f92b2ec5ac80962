import Mathlib.Data.List.TakeWhile
import VarSchema.Schema.Pointer

/-!
# Pointers and their first segments

* `Pointer.unescape_escape` : a segment is read back as it was, whatever slashes and tildes it has;
  `Pointer.slash_not_mem_escape` : and is written without slashes;
* `Pointer.Reaches` : one pointer leads to another by more segments;
* `Pointer.IsUnder` : the key is the first segment of the pointer; `Pointer.first?_of_isUnder` : so it is read from the
  pointer, and from no other (`Pointer.IsWritten.first?_eq_some_iff`); `Pointer.first?_of_reaches` : all pointers that
  one of a single segment leads to are under that key.
-/

namespace VarSchema

namespace Pointer

variable {a b c x y : Char} {p q r k : String}

/-! ## Segments -/

theorem replacePair_of_ne (h : x ≠ a) (rest : List Char) :
    replacePair a b c (x :: rest) = x :: replacePair a b c rest := by
  cases rest with
  | nil => rfl
  | cons y rest => rw [replacePair, if_neg fun hpair => h hpair.1]

theorem replacePair_of_snd_ne (h : y ≠ b) (rest : List Char) :
    replacePair a b c (x :: y :: rest) = x :: replacePair a b c (y :: rest) := by
  rw [replacePair, if_neg fun hpair => h hpair.2]

theorem replacePair_self (rest : List Char) :
    replacePair a b c (a :: b :: rest) = c :: replacePair a b c rest := by
  rw [replacePair, if_pos ⟨rfl, rfl⟩]

theorem replaceChar_cons (a b c x : Char) (cs : List Char) :
    replaceChar a b c (x :: cs) = (if x = a then [b, c] else [x]) ++ replaceChar a b c cs := List.flatMap_cons

/-- Slashes are restored: in front of a digit one, no tilde stands that was written before. -/
theorem replacePair_slash (cs : List Char) : replacePair '~' '1' '/'
    (replaceChar '/' '~' '1' (replaceChar '~' '~' '0' cs)) = replaceChar '~' '~' '0' cs := by
  induction cs with
  | nil => rfl
  | cons x cs ih =>
    rw [replaceChar_cons '~']
    by_cases htilde : x = '~'
    · rw [if_pos htilde, List.cons_append, List.singleton_append, replaceChar_cons, replaceChar_cons,
        if_neg (by decide), if_neg (by decide), List.singleton_append, List.singleton_append,
        replacePair_of_snd_ne (by decide), replacePair_of_ne (by decide), ih]
    · rw [if_neg htilde, List.singleton_append, replaceChar_cons]
      by_cases hslash : x = '/'
      · rw [if_pos hslash, List.cons_append, List.singleton_append, replacePair_self, ih, hslash]
      · rw [if_neg hslash, List.singleton_append, replacePair_of_ne htilde, ih]

/-- Then so are tildes. -/
theorem replacePair_tilde (cs : List Char) : replacePair '~' '0' '~' (replaceChar '~' '~' '0' cs) = cs := by
  induction cs with
  | nil => rfl
  | cons x cs ih =>
    rw [replaceChar_cons]
    by_cases htilde : x = '~'
    · rw [if_pos htilde, List.cons_append, List.singleton_append, replacePair_self, ih, htilde]
    · rw [if_neg htilde, List.singleton_append, replacePair_of_ne htilde, ih]

/-- A segment is read back as it was. -/
theorem unescape_escape (segment : String) : unescape (escape segment).toList = segment := by
  rw [unescape, escape, String.toList_ofList, replacePair_slash, replacePair_tilde, String.ofList_toList]

theorem slash_not_mem_escape (segment : String) : '/' ∉ (escape segment).toList := by
  intro h
  rw [escape, String.toList_ofList, replaceChar, List.mem_flatMap] at h
  obtain ⟨x, -, hx⟩ := h
  split at hx
  · revert hx
    decide
  · next hslash => exact hslash (List.mem_singleton.1 hx).symm

/-! ## Pointers -/

/-- One pointer leads to another by more segments. -/
def Reaches (p q : String) : Prop := ∃ segments : List String, q = segments.foldl push p

theorem Reaches.refl (p : String) : Reaches p p := ⟨[], rfl⟩

theorem reaches_push (p k : String) : Reaches p (push p k) := ⟨[k], rfl⟩

theorem Reaches.trans (h : Reaches p q) (h' : Reaches q r) : Reaches p r := by
  obtain ⟨ks, rfl⟩ := h
  obtain ⟨ls, rfl⟩ := h'
  exact ⟨ks ++ ls, by rw [List.foldl_append]⟩

/-- What follows a pointer on the way to another is empty or starts with a slash. -/
theorem Reaches.exists_append (h : Reaches p q) :
    ∃ tail, q = p ++ tail ∧ (tail = "" ∨ ∃ rest, tail = "/" ++ rest) := by
  obtain ⟨segments, rfl⟩ := h
  induction segments generalizing p with
  | nil => exact ⟨"", String.append_empty.symm, .inl rfl⟩
  | cons k segments ih =>
    obtain ⟨tail, htail, -⟩ := @ih (push p k)
    refine ⟨"/" ++ (escape k ++ tail), ?_, .inr ⟨_, rfl⟩⟩
    rw [List.foldl_cons, htail, push]
    simp only [String.append_assoc]

/-! ## The first segment -/

/-- A pointer is under a key if the key, as segments are written, is its first segment. -/
def IsUnder (key pointer : String) : Prop :=
  ∃ tail, pointer = "/" ++ escape key ++ tail ∧ (tail = "" ∨ ∃ rest, tail = "/" ++ rest)

/-- The pointer to the whole value, or one under some key. -/
def IsWritten (pointer : String) : Prop := (∀ rest, pointer ≠ "/" ++ rest) ∨ ∃ key, IsUnder key pointer

theorem toList_slash_append (s : String) : ("/" ++ s).toList = '/' :: s.toList := String.toList_append

theorem Reaches.isUnder (h : Reaches (push "" k) q) : IsUnder k q := by
  obtain ⟨tail, rfl, htail⟩ := h.exists_append
  exact ⟨tail, by rw [push, String.empty_append], htail⟩

/-- The first segment ends where the key does: in the key as it is written there is no slash. -/
theorem first?_of_isUnder (h : IsUnder k p) : first? p = some k := by
  obtain ⟨tail, rfl, htail⟩ := h
  have hstop : tail.toList.takeWhile (· ≠ '/') = [] := by
    rcases htail with rfl | ⟨rest, rfl⟩
    · rfl
    · rw [toList_slash_append]
      rfl
  have hsegment : ((escape k).toList ++ tail.toList).takeWhile (· ≠ '/') = (escape k).toList := by
    rw [List.takeWhile_append_of_pos, hstop, List.append_nil]
    intro x hx
    rw [decide_eq_true_iff]
    rintro rfl
    exact slash_not_mem_escape k hx
  rw [first?, String.append_assoc, toList_slash_append, String.toList_append]
  simp only [hsegment, unescape_escape]

theorem first?_eq_none_iff : first? p = none ↔ ∀ rest, p ≠ "/" ++ rest := by
  constructor
  · rintro h rest rfl
    rw [first?, toList_slash_append] at h
    cases h
  · intro h
    unfold first?
    split
    · next rest hp =>
      refine absurd (String.toList_inj.1 ?_) (h (String.ofList rest))
      rw [hp, toList_slash_append, String.toList_ofList]
    · rfl

/-- A pointer is under its first segment and no other key. -/
theorem IsWritten.first?_eq_some_iff (h : IsWritten p) : first? p = some k ↔ IsUnder k p := by
  refine ⟨fun hk => ?_, first?_of_isUnder⟩
  rcases h with hroot | ⟨l, hl⟩
  · rw [first?_eq_none_iff.2 hroot] at hk
    cases hk
  · rw [first?_of_isUnder hl] at hk
    cases hk
    exact hl

/-- The first segment stays the first. -/
theorem first?_of_reaches (h : Reaches (push "" k) q) : first? q = some k := first?_of_isUnder h.isUnder

/-- What the pointer to the whole value leads to is written. -/
theorem isWritten_of_reaches (h : Reaches "" q) : IsWritten q := by
  obtain ⟨segments, rfl⟩ := h
  cases segments with
  | nil =>
    refine .inl fun rest hrest => ?_
    have hlist := congrArg String.toList hrest
    rw [toList_slash_append] at hlist
    cases hlist
  | cons k segments => exact .inr ⟨k, Reaches.isUnder ⟨segments, rfl⟩⟩

end Pointer

end VarSchema
