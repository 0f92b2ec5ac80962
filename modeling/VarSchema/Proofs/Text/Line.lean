import Mathlib.Tactic.SplitIfs
import VarSchema.Json.Printer

/-!
# Texts on one line

* `IsLine` : a text without line breaks; `IsLine.append`, `IsLine.intercalate`, `IsLine.ite` : lines put together are a
  line;
* `splitOn_intercalate` : lines with a line break between any two are read back one by one;
* `Layout.isLine_text`, `Number.isLine_text` : numbers are written on one line;
* `Json.isLine_compact` : so are JSON values, whatever line breaks their texts and keys have, as quoting escapes them.
-/

namespace VarSchema

/-- A text without line breaks. -/
def IsLine (s : String) : Prop := '\n' ∉ s.toList

variable {s t separator : String} {ss : List String} {cs : List Char}

/-! ## Lines put together -/

theorem isLine_ofList : IsLine (String.ofList cs) ↔ '\n' ∉ cs := by
  rw [IsLine, String.toList_ofList]

/-- A literal is looked at as a list of characters. -/
theorem IsLine.literal (h : '\n' ∉ cs) : IsLine (String.ofList cs) := isLine_ofList.2 h

theorem IsLine.append (hs : IsLine s) (ht : IsLine t) : IsLine (s ++ t) := by
  rw [IsLine, String.toList_append, List.mem_append]
  exact not_or.2 ⟨hs, ht⟩

theorem IsLine.between {before after : List Char} (hs : IsLine s) (hbefore : '\n' ∉ before) (hafter : '\n' ∉ after) :
    IsLine (String.ofList before ++ s ++ String.ofList after) :=
  ((IsLine.literal hbefore).append hs).append (.literal hafter)

theorem IsLine.take (hs : IsLine s) (n : Nat) : IsLine (String.ofList (s.toList.take n)) :=
  isLine_ofList.2 fun h => hs (List.mem_of_mem_take h)

theorem IsLine.drop (hs : IsLine s) (n : Nat) : IsLine (String.ofList (s.toList.drop n)) :=
  isLine_ofList.2 fun h => hs (List.mem_of_mem_drop h)

theorem IsLine.ite {p : Prop} [Decidable p] (hs : IsLine s) (ht : IsLine t) : IsLine (if p then s else t) := by
  split
  · exact hs
  · exact ht

theorem IsLine.intercalate (hseparator : IsLine separator) :
    ∀ {ss : List String}, (∀ s ∈ ss, IsLine s) → IsLine (separator.intercalate ss)
  | [], _ => by
    rw [String.intercalate_nil]
    exact .literal List.not_mem_nil
  | [s], h => by
    rw [String.intercalate_singleton]
    exact h s (List.mem_singleton_self s)
  | s :: t :: ss, h => by
    rw [List.forall_mem_cons] at h
    rw [String.intercalate_cons_cons]
    exact (h.1.append hseparator).append (hseparator.intercalate h.2)

/-- Lines with a line break between any two are read back one by one. -/
theorem splitOn_intercalate (h : ∀ s ∈ ss, IsLine s) (hne : ss ≠ []) :
    ("\n".intercalate ss).toList.splitOn '\n' = ss.map String.toList := by
  rw [String.toList_intercalate]
  refine List.splitOn_intercalate '\n' ?_ (by simpa using hne)
  rintro _ hmem
  obtain ⟨s, hs, rfl⟩ := List.mem_map.1 hmem
  exact h s hs

/-! ## Numbers -/

theorem newline_not_mem_toDigits (n : Nat) : '\n' ∉ Nat.toDigits 10 n := by
  intro h
  have hdigit := Nat.isDigit_of_mem_toDigits (by decide) (by decide) h
  revert hdigit
  decide

theorem isLine_toString (n : Nat) : IsLine (toString n) := isLine_ofList.2 (newline_not_mem_toDigits n)

theorem isLine_toString_int (n : Int) : IsLine (toString n) := by
  cases n with
  | ofNat n => exact isLine_toString n
  | negSucc n => exact IsLine.append (.literal (by decide)) (isLine_toString (n + 1))

namespace Layout

theorem isLine_zeros (n : Nat) : IsLine (zeros n) := by
  rw [zeros, isLine_ofList, List.mem_replicate]
  exact fun h => absurd h.2 (by decide)

theorem isLine_positionalText (layout : Layout) (x : Decimal) : IsLine (layout.positionalText x) := by
  have hdigits := isLine_toString x.coefficient
  unfold positionalText
  dsimp only
  split
  · exact (hdigits.append (isLine_zeros _)).append (.ite (.literal (by decide)) (.literal (by decide)))
  · split
    · exact ((hdigits.take _).append (.literal (by decide))).append (hdigits.drop _)
    · exact (IsLine.append (.literal (by decide)) (isLine_zeros _)).append hdigits

theorem isLine_scientificText (x : Decimal) (lead : Int) : IsLine (scientificText x lead) := by
  have hdigits := isLine_toString x.coefficient
  have hfraction := IsLine.append (show IsLine "." from .literal (by decide)) (hdigits.drop 1)
  exact ((((hdigits.take 1).append (.ite (.literal List.not_mem_nil) hfraction)).append (.literal (by decide))).append
    (.ite (.literal (by decide)) (.literal (by decide)))).append (isLine_toString _)

theorem isLine_text (layout : Layout) (x : Binary64.Finite) : IsLine (layout.text x) :=
  .append (.ite (.literal (by decide)) (.literal (by decide)))
    (.ite (layout.isLine_positionalText _) (isLine_scientificText _ _))

end Layout

theorem Binary64.isLine_text (v : Binary64) : IsLine v.text := by
  cases v with
  | finite x => exact Layout.plain.isLine_text x
  | infinite n => exact .ite (.literal (by decide)) (.literal (by decide))
  | nan => exact .literal (by decide)

theorem Number.isLine_text (n : Number) : IsLine n.text := by
  cases n with
  | integer n => exact isLine_toString_int n
  | float x => exact Layout.json.isLine_text x

/-! ## JSON values -/

namespace Json

theorem hexDigit_ne_newline (n : Nat) : hexDigit n ≠ '\n' := by
  have hall : ∀ m < 16, (Nat.toDigits 16 m).headD '0' ≠ '\n' := by decide
  exact hall (n % 16) (Nat.mod_lt n (by decide))

/-- A line break is escaped, and no escape has one. -/
theorem newline_not_mem_escape (c : Char) : '\n' ∉ escape c := by
  by_cases hc : c = '\n'
  · subst hc
    decide
  · unfold escape
    split_ifs
    all_goals simp [Ne.symm (hexDigit_ne_newline _), Ne.symm hc]

theorem isLine_quote (s : String) : IsLine (quote s) := by
  have hescaped : IsLine (String.ofList (s.toList.flatMap escape)) := by
    rw [isLine_ofList, List.mem_flatMap]
    rintro ⟨c, -, hc⟩
    exact newline_not_mem_escape c hc
  exact hescaped.between (by decide) (by decide)

mutual
/-- A value is written on one line. -/
theorem isLine_compact : ∀ v : Json, IsLine v.compact
  | .null => .literal (by decide)
  | .bool b => by cases b <;> exact .literal (by decide)
  | .num n => n.isLine_text
  | .str s => isLine_quote s
  | .arr items =>
    .between (.intercalate (.literal (by decide)) fun _ => isLine_compactItems items) (by decide) (by decide)
  | .obj fields =>
    .between (.intercalate (.literal (by decide)) fun _ => isLine_compactFields fields) (by decide) (by decide)
termination_by structural v => v

theorem isLine_compactItems : ∀ (vs : List Json) {s : String}, s ∈ compactItems vs → IsLine s
  | v :: rest, s, hs => by
    rcases List.mem_cons.1 hs with rfl | hs
    · exact isLine_compact v
    · exact isLine_compactItems rest hs
termination_by structural vs => vs

theorem isLine_compactFields : ∀ (es : List (String × Json)) {s : String}, s ∈ compactFields es → IsLine s
  | (k, v) :: rest, s, hs => by
    rcases List.mem_cons.1 hs with rfl | hs
    · exact ((isLine_quote k).append (.literal (by decide))).append (isLine_compact v)
    · exact isLine_compactFields rest hs
termination_by structural es => es
end

end Json

end VarSchema
