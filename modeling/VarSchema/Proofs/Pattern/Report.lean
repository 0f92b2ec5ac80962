import VarSchema.Pattern.Error
import VarSchema.Proofs.Text.Line

/-!
# Reports on patterns

* `newline_not_mem_of_mem_textLines` : the lines of a text have no line breaks;
* `PatternError.newline_not_mem_lines` : nor have those of a report, which shows the lines of the pattern;
* `PatternFailure.isLine_detail` : so the report on one line is one.
-/

namespace VarSchema

/-! ## Lines of a text -/

theorem newline_not_mem_of_mem_splitOn : ∀ {cs line : List Char}, line ∈ cs.splitOn '\n' → '\n' ∉ line
  | [], line, h => by
    rw [List.mem_singleton.1 h]
    exact List.not_mem_nil
  | c :: cs, line, h => by
    rw [List.splitOn_cons_eq_if_modifyHead] at h
    split at h
    · rcases List.mem_cons.1 h with rfl | h
      · exact List.not_mem_nil
      · exact newline_not_mem_of_mem_splitOn h
    · next hc =>
      have hlines (l : List Char) (hl : l ∈ cs.splitOn '\n') : '\n' ∉ l := newline_not_mem_of_mem_splitOn hl
      cases hsplit : cs.splitOn '\n' with
      | nil =>
        rw [hsplit] at h
        cases h
      | cons first rest =>
        rw [hsplit] at h hlines
        rcases List.mem_cons.1 h with rfl | h
        · rw [List.mem_cons]
          rintro (rfl | hfirst)
          · exact hc (beq_self_eq_true _)
          · exact hlines first (List.mem_cons_self ..) hfirst
        · exact hlines line (List.mem_cons_of_mem _ h)

theorem newline_not_mem_of_mem_textLines {cs line : List Char} (h : line ∈ textLines cs) : '\n' ∉ line := by
  suffices hsplit : line ∈ (cs.splitOn '\n').reverse from newline_not_mem_of_mem_splitOn (List.mem_reverse.1 hsplit)
  unfold textLines at h
  split at h
  · next hlast =>
    rw [hlast]
    exact List.mem_cons_of_mem _ (List.mem_reverse.1 h)
  · exact List.mem_reverse.1 h

theorem mem_of_mem_trimmed {c : Char} {cs : List Char} (h : c ∈ trimmed cs) : c ∈ cs := by
  have hright := (List.dropWhile_suffix isWhite).subset (List.mem_reverse.1 h)
  exact (List.dropWhile_suffix isWhite).subset (List.mem_reverse.1 hright)

/-! ## Lines of a report -/

theorem PatternFault.isLine_text (f : PatternFault) : IsLine f.text := by
  cases f with
  | boundaryUnknown | boundaryOrCountEnd => exact IsLine.append (.literal (by decide)) (.literal (by decide))
  | _ => exact .literal (by decide +kernel)

namespace PatternError

variable {pattern : List Char} {c : Char}

theorem newline_not_mem_copies (n : Nat) (hc : c ≠ '\n') : '\n' ∉ copies n c := by
  rw [copies, List.mem_replicate]
  exact fun h => hc h.2.symm

theorem newline_not_mem_underlines : ∀ (columns : List (Nat × Nat)) {written : List Char}, '\n' ∉ written →
    '\n' ∉ columns.foldl (fun w (c, d) => underline w c d) written
  | [], _, h => h
  | (start, stop) :: columns, written, h => by
    refine newline_not_mem_underlines columns ?_
    simp only [underline, List.mem_append, not_or]
    exact ⟨⟨h, newline_not_mem_copies _ (by decide)⟩, newline_not_mem_copies _ (by decide)⟩

theorem newline_not_mem_numberedLine {width i : Nat} {spans : List Span} {line l : List Char} (h : '\n' ∉ line)
    (hl : l ∈ numberedLine width pattern spans i line) : '\n' ∉ l := by
  have hblanks (n : Nat) : '\n' ∉ copies n ' ' := newline_not_mem_copies n (by decide)
  have hnumber : '\n' ∉ (toString (i + 1)).toList := isLine_toString (i + 1)
  have hshown : '\n' ∉ (if width = 0 then copies 4 ' ' ++ line
      else copies (width - (toString (i + 1)).toList.length) ' ' ++ (toString (i + 1)).toList ++ [':', ' '] ++
        line) := by
    split
    · simp [hblanks, h]
    · simp only [List.mem_append, not_or]
      exact ⟨⟨⟨hblanks _, hnumber⟩, by decide⟩, h⟩
  unfold numberedLine at hl
  dsimp only at hl
  split at hl
  · rw [List.mem_singleton.1 hl]
    exact hshown
  · rcases List.mem_cons.1 hl with rfl | hl
    · exact hshown
    · rw [List.mem_singleton.1 hl, List.mem_append, not_or]
      exact ⟨hblanks _, newline_not_mem_underlines _ List.not_mem_nil⟩

theorem isLine_remark (l c m d : Nat) : IsLine ("on line " ++ toString l ++ " (column " ++ toString c ++
    ") through line " ++ toString m ++ " (column " ++ toString d ++ ")") := by
  have hnumbered {t : String} (n : Nat) (ht : IsLine t) : IsLine (t ++ toString n) := ht.append (isLine_toString n)
  refine .append (hnumbered d (.append (hnumbered m (.append (hnumbered c (.append (hnumbered l ?_) ?_)) ?_)) ?_)) ?_
  all_goals exact .literal (by decide)

theorem newline_not_mem_remark? {s : Span} {l : List Char} (hl : remark? pattern s = some l) : '\n' ∉ l := by
  unfold remark? at hl
  dsimp only at hl
  split at hl
  · cases hl
  · rw [← Option.some.inj hl]
    exact isLine_remark _ _ _ _

/-- No line of a report has a line break. -/
theorem newline_not_mem_lines (e : PatternError) {l : List Char} (hl : l ∈ e.lines pattern) : '\n' ∉ l := by
  have hwording : IsLine ("error: " ++ e.fault.text) := .append (.literal (by decide)) e.fault.isLine_text
  have hbody {width : Nat} (h : l ∈ ((textLines pattern).mapIdx (numberedLine width pattern e.spans)).flatten) :
      '\n' ∉ l := by
    obtain ⟨block, hblock, hl⟩ := List.mem_flatten.1 h
    obtain ⟨i, hi, rfl⟩ := List.mem_mapIdx.1 hblock
    exact newline_not_mem_numberedLine (newline_not_mem_of_mem_textLines (List.getElem_mem hi)) hl
  unfold lines at hl
  dsimp only at hl
  split at hl
  · simp only [List.mem_append, List.mem_cons, List.not_mem_nil, or_false] at hl
    rcases hl with ((((rfl | rfl) | hl) | rfl) | hl) | rfl
    · decide
    · exact newline_not_mem_copies _ (by decide)
    · exact hbody hl
    · exact newline_not_mem_copies _ (by decide)
    · obtain ⟨s, -, hs⟩ := List.mem_filterMap.1 hl
      exact newline_not_mem_remark? hs
    · exact hwording
  · simp only [List.cons_append, List.mem_append, List.mem_cons, List.not_mem_nil, or_false] at hl
    rcases hl with rfl | hl | rfl
    · decide
    · exact hbody hl
    · exact hwording

theorem isLine_detail (pattern : String) (e : PatternError) : IsLine (e.detail pattern) := by
  refine IsLine.intercalate (.literal (by decide)) fun s hs => ?_
  obtain ⟨l, hl, rfl⟩ := List.mem_map.1 hs
  exact isLine_ofList.2 fun h => e.newline_not_mem_lines hl (mem_of_mem_trimmed h)

end PatternError

/-- The report on one line is one. -/
theorem PatternFailure.isLine_detail (pattern : String) (e : PatternFailure) : IsLine (e.detail pattern) := by
  cases e with
  | invalid e => exact e.isLine_detail pattern
  | tooLarge => exact .literal (by decide)

end VarSchema
