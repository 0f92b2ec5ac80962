import VarSchema.Proofs.Condition.Display
import VarSchema.Proofs.Pattern.Report
import VarSchema.Proofs.Rule.Counts
import VarSchema.Proofs.Rule.Exclusion

/-!
# What is told of a condition that no rule recognizes

* `FailsOnLine` : what fails does so for a reason that is told on one line;
* `Enumeration.failsOnLine_ofMembership`, `Enumeration.failsOnLine_ofEqualities`, `Range.failsOnLine_ofComparisons`,
  `Rule.failsOnLine_ofRegexCall` : each rule does, whatever literals and patterns the condition has;
* `Condition.details_lines` : so the details have one line for each rule.
-/

namespace VarSchema

open Condition

/-! ## Reasons -/

/-- What fails does so for a reason that is told on one line. -/
def FailsOnLine {α : Type} (result : Except Reason α) : Prop := ∀ e, result = .error e → IsLine e.text

namespace FailsOnLine

variable {α β : Type} {result : Except Reason α} {e : Reason}

theorem ok (a : α) : FailsOnLine (.ok a) := by
  intro e h
  cases h

theorem error (h : IsLine e.text) : FailsOnLine (.error e : Except Reason α) := by
  intro e' he
  cases he
  exact h

theorem map (h : FailsOnLine result) (f : α → β) : FailsOnLine (result.map f) :=
  fun e he => h e (Except.map_eq_error.1 he)

end FailsOnLine

/-! ## Allowed values -/

namespace Enumeration

variable {name : String} {c l r : Condition}

theorem failsOnLine_constants : ∀ {items : List Condition}, (∀ c ∈ items, c.HasLineNames) →
    FailsOnLine (constants items)
  | [], _ => .ok []
  | item :: rest, h => by
    rw [List.forall_mem_cons] at h
    unfold constants
    split
    · exact .error ((isLine_display h.1).between (by decide) (by decide))
    · exact (failsOnLine_constants h.2).map _

theorem failsOnLine_listItems (h : c.HasLineNames) : FailsOnLine (listItems c) := by
  have hinner := h.unparen
  unfold listItems
  split
  · next items hitems =>
    rw [hitems, hasLineNames_list] at hinner
    exact failsOnLine_constants hinner
  · exact .ok _
  · exact .error (.literal (by decide))

theorem failsOnLine_ofMembership (h : c.HasLineNames) : FailsOnLine (ofMembership name c) := by
  unfold ofMembership
  split
  · next list subject hargs =>
    have hlist := failsOnLine_listItems (h.arg hargs list (List.mem_cons_self ..))
    split
    · next e he => exact .error (hlist e he)
    · split
      · exact .ok _
      · exact .error (.literal (by decide))
  · exact .error (.literal (by decide))

theorem failsOnLine_equated (hl : l.HasLineNames) (hr : r.HasLineNames) : FailsOnLine (equated name l r) := by
  rcases hpair : (if r.isVar name then (r, l) else (l, r)) with ⟨subject, value⟩
  have hvalue : IsLine value.display := by
    split at hpair
    · cases hpair
      exact isLine_display hl
    · cases hpair
      exact isLine_display hr
  rw [equated, hpair]
  dsimp only
  split
  · split
    · exact .ok _
    · exact .error (hvalue.between (by decide) (by decide))
  · exact .error (.literal (by decide))

theorem failsOnLine_alternatives : ∀ {c : Condition}, c.HasLineNames → FailsOnLine (alternatives name c)
  | .or l r, h => by
    obtain ⟨hl, hr⟩ := hasLineNames_or.1 h
    unfold alternatives
    split
    · next e he => exact .error (failsOnLine_alternatives hl e he)
    · exact (failsOnLine_alternatives hr).map _
  | .paren inner, h => failsOnLine_alternatives (c := inner) h
  | .compare op l r, h => by
    obtain ⟨hl, hr⟩ := hasLineNames_compare.1 h
    cases op with
    | eq => exact (failsOnLine_equated hl hr).map _
    | lt | le | gt | ge | ne => exact .error ((Comparison.isLine_symbol _).between (by decide) (by decide))
  | .and .., _ | .call .., _ | .varRef _, _ | .length _, _ | .literal _, _ | .list _, _ => .error (.literal (by decide))
termination_by structural c => c

theorem failsOnLine_ofEqualities (h : c.HasLineNames) : FailsOnLine (ofEqualities name c) := by
  unfold ofEqualities
  split
  · next e he => exact .error (failsOnLine_alternatives h e he)
  · exact .error (.literal (by decide))
  · exact .ok _

end Enumeration

/-! ## Bounds -/

namespace Range

variable {name type : String} {op : Comparison} {v : Binary64} {l r : Condition}

theorem failsOnLine_ofNumber (op : Comparison) (v : Binary64) : FailsOnLine (ofNumber op v) := by
  cases op with
  | eq | ne => exact .error (.literal (by decide))
  | _ => exact .ok _

theorem isLine_of_countBounds {x : Binary64.Finite} {bs : List Bound}
    (h : countBounds op x (countKeywords type) = .ok bs) : ∀ b ∈ bs, IsLine b.1 := by
  obtain ⟨-, rfl⟩ := countBounds_eq_ok_iff.1 h
  have hkeywords : IsLine (countKeywords type).1 ∧ IsLine (countKeywords type).2 := by
    unfold countKeywords
    split_ifs <;> exact ⟨.literal (by decide), .literal (by decide)⟩
  rw [List.forall_mem_map]
  cases op <;> simp [lengthKeywords, hkeywords]

theorem failsOnLine_countBounds (op : Comparison) (x : Binary64.Finite) (keywords : String × String) :
    FailsOnLine (countBounds op x keywords) := by
  cases op with
  | ne => exact .error (.literal (by decide))
  | _ => exact .ok _

theorem failsOnLine_ofLength (op : Comparison) (v : Binary64) (type : String) : FailsOnLine (ofLength op v type) := by
  have hrange : IsLine (Reason.lengthOutOfRange v).text := v.isLine_text.between (by decide) (by decide)
  have hwhole : IsLine (Reason.lengthNotWhole v).text := v.isLine_text.between (by decide) (by decide)
  cases v with
  | infinite _ | nan => exact .error hrange
  | finite x =>
    rw [ofLength]
    split
    · exact .error hrange
    split
    · exact .error hwhole
    split
    · next e he => exact .error (failsOnLine_countBounds op x _ e he)
    · next bounds hbounds =>
      split
      · next keyword bound hfound =>
        have hkeyword := isLine_of_countBounds hbounds _ (List.mem_of_find?_eq_some hfound)
        exact .error (((hkeyword.append (.literal (by decide))).append bound.isLine_text).append (.literal (by decide)))
      · exact .ok _

theorem failsOnLine_ofSubject (htype : IsLine type) (isLength : Bool) (op : Comparison) (v : Binary64) :
    FailsOnLine (ofSubject type isLength op v) := by
  unfold ofSubject
  split
  · split
    · exact .error (.literal (by decide))
    · exact failsOnLine_ofNumber op v
  · split
    · exact failsOnLine_ofLength op v type
    · exact .error (.append (.literal (by decide)) htype)

theorem failsOnLine_ofComparison (htype : IsLine type) (hl : l.HasLineNames) (hr : r.HasLineNames) :
    FailsOnLine (ofComparison name type op l r) := by
  rcases horient : oriented name op l r with ⟨op', subject, bound⟩
  have hbound : IsLine bound.display := by
    rcases oriented_cases horient with ⟨-, -, rfl⟩ | ⟨-, -, rfl⟩
    · exact isLine_display hr
    · exact isLine_display hl
  rw [ofComparison, horient]
  dsimp only
  split
  · exact .error (.literal (by decide))
  split
  · exact .error (.literal (by decide))
  split
  · exact .error (hbound.between (by decide) (by decide))
  · exact failsOnLine_ofSubject htype _ _ _

theorem failsOnLine_bounds (htype : IsLine type) : ∀ {c : Condition}, c.HasLineNames → FailsOnLine (bounds name type c)
  | .and l r, h => by
    obtain ⟨hl, hr⟩ := hasLineNames_and.1 h
    unfold bounds
    split
    · next e he => exact .error (failsOnLine_bounds htype hl e he)
    · exact (failsOnLine_bounds htype hr).map _
  | .paren inner, h => failsOnLine_bounds htype (c := inner) h
  | .compare op l r, h => by
    obtain ⟨hl, hr⟩ := hasLineNames_compare.1 h
    exact failsOnLine_ofComparison htype hl hr
  | .or .., _ | .call .., _ | .varRef _, _ | .length _, _ | .literal _, _ | .list _, _ => .error (.literal (by decide))
termination_by structural c => c

theorem failsOnLine_ofComparisons {type : Option String} {c : Condition} (htype : ∀ t, type = some t → IsLine t)
    (h : c.HasLineNames) : FailsOnLine (ofComparisons name type c) := by
  unfold ofComparisons
  split
  · exact .error (.literal (by decide))
  · next t =>
    have ht := htype t rfl
    split
    · exact (failsOnLine_bounds ht h).map _
    · exact .error (ht.between (by decide) (by decide))

end Range

/-! ## Patterns -/

namespace Rule

variable {name : String} {type : Option String} {c : Condition}

theorem failsOnLine_regexArgs (c : Condition) : FailsOnLine (regexArgs c) := by
  unfold regexArgs
  split
  · split
    · exact .ok _
    · exact .error (.literal (by decide))
  · exact .error (.literal (by decide))

theorem hasLineNames_pattern {pattern subject : Condition} (h : c.HasLineNames)
    (hargs : regexArgs c = .ok (pattern, subject)) : pattern.HasLineNames := by
  obtain ⟨inner, hcan, hregex⟩ := regexArgs_eq_ok_iff.1 hargs
  have hinner := h.arg hcan inner (List.mem_singleton_self inner)
  exact hinner.arg hregex pattern (List.mem_cons_self ..)

theorem failsOnLine_ofRegexCall (htype : ∀ t, type = some t → IsLine t) (h : c.HasLineNames) :
    FailsOnLine (ofRegexCall name type c) := by
  unfold ofRegexCall
  split
  · refine .error (.append (.literal (by decide)) ?_)
    cases type with
    | none => exact .literal (by decide)
    | some t => exact htype t rfl
  split
  · next e he => exact .error (failsOnLine_regexArgs c e he)
  · next pattern subject hargs =>
    split
    · exact .error (.literal (by decide))
    split
    · next p _ =>
      split
      · next e _ => exact .error (.append (.literal (by decide)) (e.isLine_detail p))
      · exact .ok _
    · exact .error ((isLine_display (hasLineNames_pattern h hargs)).between (by decide) (by decide))

/-- Every rule tells on one line why it does not recognize a condition. -/
theorem failsOnLine_recognize (r : Rule) (htype : ∀ t, type = some t → IsLine t) (h : c.HasLineNames) :
    FailsOnLine (r.recognize name type c) := by
  cases r with
  | membership => exact Enumeration.failsOnLine_ofMembership h
  | equalityChain => exact Enumeration.failsOnLine_ofEqualities h
  | rangeChain => exact Range.failsOnLine_ofComparisons htype h
  | regexCall => exact failsOnLine_ofRegexCall htype h

theorem isLine_shape (r : Rule) : IsLine r.shape := by
  cases r <;> exact .literal (by decide)

end Rule

/-! ## Details -/

theorem Rejection.isLine_line {r : Rejection} (h : IsLine r.reason.text) : IsLine r.line :=
  (r.rule.isLine_shape.between (by decide) (by decide)).append h

namespace Condition

variable {name : String} {c : Condition}

theorem eq_map_of_isOf {type : Option String} {reason : Rule → Reason} {rules : List Rule}
    {rejections : List Rejection} (hreason : ∀ r : Rule, r.recognize name type c = .error (reason r))
    (h : List.Forall₂ (Rejection.IsOf name type c) rules rejections) :
    rejections = rules.map fun r => ⟨r, reason r⟩ := by
  induction h with
  | nil => rfl
  | @cons r rejection rules rejections hr _ ih =>
    obtain ⟨r', told⟩ := rejection
    obtain ⟨rfl, herror⟩ := hr
    obtain rfl : reason r' = told := Except.error.inj ((hreason r').symm.trans herror)
    rw [List.map_cons, ← ih]

/-- **If no rule recognizes a condition, each tells on one line why, whatever line breaks the literals and patterns
have. So the details are four lines, one for each rule in the order of the rules: its shape and its reason.** -/
theorem details_lines {n : Node} {e : NotApplicable} (h : c.toDelta name n = .error e) (hnames : c.HasLineNames)
    (htype : ∀ t, n.typeName? = some t → IsLine t) :
    ∃ reason : Rule → Reason,
      (∀ r, r.recognize name n.typeName? c = .error (reason r) ∧ IsLine (reason r).text) ∧
      e.rejections = [.membership, .equalityChain, .rangeChain, .regexCall].map (fun r => ⟨r, reason r⟩) ∧
      e.details.toList.splitOn '\n' = [.membership, .equalityChain, .rangeChain, .regexCall].map fun r =>
        ("  " ++ r.shape ++ ": " ++ (reason r).text).toList := by
  obtain ⟨reason, hreason⟩ := Classical.skolem.1 (exists_toDelta_eq_error_iff.1 ⟨e, h⟩)
  have hline (r : Rule) : IsLine (reason r).text := r.failsOnLine_recognize htype hnames _ (hreason r)
  have hrejections := eq_map_of_isOf hreason (toDelta_eq_error_iff.1 h).2
  refine ⟨reason, fun r => ⟨hreason r, hline r⟩, hrejections, ?_⟩
  rw [NotApplicable.details, splitOn_intercalate, hrejections, List.map_map, List.map_map]
  · rfl
  · rw [hrejections, List.map_map, List.forall_mem_map]
    exact fun r _ => Rejection.isLine_line (hline r)
  · rw [hrejections]
    exact List.cons_ne_nil _ _

/-- A pattern of two lines, of which the error message has six. -/
theorem details_lines_pattern :
    let c : Condition := .call "can" [.call "regex" [.literal (.str "(\n"), .varRef "x"]]
    let divider := String.ofList (List.replicate 79 '~')
    c.HasLineNames ∧ (∀ t, (Node.typed "string").typeName? = some t → IsLine t) ∧
      ∃ (e : NotApplicable) (reason : Rule → Reason), c.toDelta "x" (Node.typed "string") = .error e ∧
        (∀ r, IsLine (reason r).text) ∧
        (reason .regexCall).text = "invalid regex pattern: regex parse error: " ++ divider ++ " 1: ( ^ " ++ divider ++
          " error: unclosed group" ∧
        e.details.toList.splitOn '\n' = [.membership, .equalityChain, .rangeChain, .regexCall].map fun r =>
          ("  " ++ r.shape ++ ": " ++ (reason r).text).toList := by
  intro c divider
  have hnames : c.HasLineNames := by
    have hall : c.names = ["can", "regex", "x"] := rfl
    rw [HasLineNames, hall, List.forall_mem_cons, List.forall_mem_cons, List.forall_mem_singleton]
    exact ⟨.literal (by decide), .literal (by decide), .literal (by decide)⟩
  have htype : ∀ t, (Node.typed "string").typeName? = some t → IsLine t := by
    rintro t ⟨⟩
    exact .literal (by decide)
  have htext : ((Rule.regexCall.recognize "x" (some "string") c).map fun _ => ()).mapError Reason.text =
      .error ("invalid regex pattern: regex parse error: " ++ divider ++ " 1: ( ^ " ++ divider ++
        " error: unclosed group") := by
    decide +kernel
  have hrefused : (c.toDelta "x" (Node.typed "string")).isOk = false := by decide +kernel
  cases he : c.toDelta "x" (Node.typed "string") with
  | ok d =>
    rw [he] at hrefused
    cases hrefused
  | error e =>
    obtain ⟨reason, hreason, -, hlines⟩ := details_lines he hnames htype
    have hregex : Rule.regexCall.recognize "x" (some "string") c = .error (reason .regexCall) := (hreason .regexCall).1
    rw [hregex] at htext
    exact ⟨hnames, htype, e, reason, rfl, fun r => (hreason r).2, Except.error.inj htext, hlines⟩

end Condition

end VarSchema
