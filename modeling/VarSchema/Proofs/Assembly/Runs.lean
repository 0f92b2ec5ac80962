import VarSchema.Proofs.Assembly.Acceptance
import VarSchema.Proofs.Rule.Given

/-!
# What the conditions make of a variable's schema

* `Variable.get?_applyAll_eq_or` : at a keyword that is no bound, a run leaves what its last condition gives there;
  `Variable.holdsTightest_applyAll` : at one of bounds, the tightest of all that its conditions give;
  `Variable.reports_applyAll` : it reports the conditions that no rule recognizes, in order;
* `Node.HoldsLast` : a node has at a keyword what the last of some nodes has;
* `Variable.Outcome` : the schema of a variable in terms of its type's and its conditions, each by itself;
  `Variable.outcome_finish` : and so it is;
* `Variable.outcome_of_translate` : of any order of the conditions, with the same bounds and reports.
-/

namespace VarSchema

/-- The diagnostic is that of a condition which no rule recognizes, with the reasons of all four. -/
def Diagnostic.Reports (name : String) (type : Option String) (c : Condition) (diagnostic : Diagnostic) : Prop :=
  ∃ cause, diagnostic = .conditionNotApplicable name cause ∧ cause.condition = c ∧
    List.Forall₂ (Rejection.IsOf name type c) [.membership, .equalityChain, .rangeChain, .regexCall] cause.rejections

/-- The node has at a keyword what the last of some nodes has there, and nothing if there are none. -/
def Node.HoldsLast (n : Node) (k : String) (ds : List Node) : Prop :=
  (ds = [] ∧ n.get? k = none) ∨ ∃ before d w, ds = before ++ [d] ∧ d.get? k = some w ∧ n.get? k = some w

theorem Node.holdsLast_of_get?_eq {n : Node} {k : String} {ds : List Node}
    (hget : n.get? k = (ds.filterMap (·.get? k)).getLast?) (hds : ∀ d ∈ ds, (d.get? k).isSome = true) :
    n.HoldsLast k ds := by
  rcases List.eq_nil_or_concat ds with rfl | ⟨before, d, rfl⟩
  · exact .inl ⟨rfl, hget⟩
  · obtain ⟨w, hw⟩ := Option.isSome_iff_exists.1 (hds d (by simp))
    refine .inr ⟨before, d, w, by simp, hw, ?_⟩
    have hlast : [d].filterMap (·.get? k) = [w] := List.filterMap_cons_some hw
    rw [hget, List.concat_eq_append, List.filterMap_append, hlast, List.getLast?_concat]

namespace Variable

variable {name : String} {cs : List Condition} {k : String}

/-! ## Runs -/

/-- What a run leaves at a keyword that is no bound. -/
theorem get?_applyAll_eq_or (hk : Side.ofKeyword? k = none) : ∀ (cs : List Condition) (n : Node),
    (applyAll name cs n).1.get? k = (cs.filterMap (·.valueAt name n.typeName? k)).getLast?.or (n.get? k)
  | [], n => rfl
  | c :: cs, n => by
    cases h : c.toDelta name n with
    | error cause =>
      rw [applyAll_of_error h, List.filterMap_cons_none (Condition.valueAt_of_toDelta_error h k),
        get?_applyAll_eq_or hk cs n]
    | ok d =>
      have hvalue := Condition.valueAt_of_toDelta h k
      rw [applyAll_of_ok h, get?_applyAll_eq_or hk cs (n.merge d), Condition.typeName?_merge_toDelta h]
      cases hd : d.get? k with
      | none => rw [List.filterMap_cons_none (hvalue.trans hd), Node.get?_merge_of_none hd]
      | some w =>
        rw [List.filterMap_cons_some (hvalue.trans hd), Node.get?_merge_of_not_bound hk hd, List.getLast?_cons]
        cases (cs.filterMap (·.valueAt name n.typeName? k)).getLast? <;> rfl

/-- What a run leaves at a keyword of bounds. -/
theorem holdsTightest_applyAll (name : String) {side : Side} (hk : Side.ofKeyword? k = some side) :
    ∀ {cs : List Condition} {n : Node} {values : List Json}, (∀ c ∈ cs, c.HasNumbersInRange) →
      (∀ w ∈ values, w.IsBound) → n.HoldsTightest side k values →
      (applyAll name cs n).1.HoldsTightest side k (values ++ cs.filterMap (·.valueAt name n.typeName? k))
  | [], n, values, _, _, hn => by
    rw [List.filterMap_nil, List.append_nil]
    exact hn
  | c :: cs, n, values, hcs, hvalues, hn => by
    rw [List.forall_mem_cons] at hcs
    cases h : c.toDelta name n with
    | error cause =>
      rw [applyAll_of_error h, List.filterMap_cons_none (Condition.valueAt_of_toDelta_error h k)]
      exact holdsTightest_applyAll name hk hcs.2 hvalues hn
    | ok d =>
      have hvalue := Condition.valueAt_of_toDelta h k
      have hd (w : Json) (hw : d.get? k = some w) : w.IsBound :=
        Condition.isBound_of_valueAt hk hcs.1 (hvalue.trans hw)
      -- the values before the rest of the run are one more, of which the merged node has the tightest
      have hadded : ∀ w ∈ values ++ (d.get? k).toList, w.IsBound :=
        List.forall_mem_append.2 ⟨hvalues, fun w hw => hd w (Option.mem_toList.1 hw)⟩
      have hrun := holdsTightest_applyAll name hk hcs.2 hadded (hn.merge hk hvalues hd)
      have hsplit : (c :: cs).filterMap (·.valueAt name n.typeName? k) =
          (d.get? k).toList ++ cs.filterMap (·.valueAt name n.typeName? k) := by
        rw [List.filterMap_cons, hvalue]
        cases d.get? k <;> rfl
      rw [Condition.typeName?_merge_toDelta h, List.append_assoc] at hrun
      rw [applyAll_of_ok h, hsplit]
      exact hrun

/-- What a run leaves out depends on each condition by itself. -/
theorem diagnostics_applyAll : ∀ (cs : List Condition) (n : Node), (applyAll name cs n).2 =
    cs.filterMap fun c => match c.toDelta name n with
      | .ok _ => none
      | .error cause => some (.conditionNotApplicable name cause)
  | [], _ => rfl
  | c :: cs, n => by
    cases h : c.toDelta name n with
    | error cause =>
      rw [applyAll_of_error h, List.filterMap_cons_some (by rw [h]), diagnostics_applyAll cs n]
    | ok d =>
      have htype := Condition.typeName?_merge_toDelta (m := n) h
      rw [applyAll_of_ok h, List.filterMap_cons_none (by rw [h]), diagnostics_applyAll cs (n.merge d)]
      simp only [Condition.toDelta_congr htype]

/-- A run reports the conditions that no rule recognizes, in order, each with its own reasons. -/
theorem reports_applyAll (name : String) : ∀ (cs : List Condition) (n : Node),
    List.Forall₂ (Diagnostic.Reports name n.typeName?)
      (cs.filter fun c => (c.givenBy name n.typeName? Rule.all).isNone) (applyAll name cs n).2
  | [], _ => .nil
  | c :: cs, n => by
    have hgiven := Condition.givenBy_all name c n
    cases h : c.toDelta name n with
    | error cause =>
      rw [h] at hgiven
      rw [applyAll_of_error h, List.filter_cons_of_pos (by rw [hgiven]; rfl)]
      exact .cons ⟨cause, rfl, Condition.toDelta_eq_error_iff.1 h⟩ (reports_applyAll name cs n)
    | ok d =>
      rw [h] at hgiven
      have hrun := reports_applyAll name cs (n.merge d)
      rw [Condition.typeName?_merge_toDelta h] at hrun
      rw [applyAll_of_ok h, List.filter_cons_of_neg (by rw [hgiven]; nofun)]
      exact hrun

/-! ## The schema of a variable -/

/-- The schema of a variable and what is left out of it, in terms of its type's schema and of each condition by
itself: whether and by which keywords a condition is recognized depends on the type's name alone; the allowed values
are those of the last condition that lists some, the pattern that of the last one that has one, a bound the tightest
of the type's and all conditions'; the rest is that of the type, the default and the description, without the name of
the type if the variable is nullable, unless it is any. -/
structure Outcome (options : Options) (v : Variable) (base node : Node) (diagnostics : List Diagnostic) : Prop where
  verdict : ∀ before c after, v.conditions = before ++ c :: after → ∀ m : Node, m.typeName? = base.typeName? →
    c.toDelta v.name (applyAll v.name before (setIf "default" v.default base)).1 = c.toDelta v.name m
  enum : node.HoldsLast "enum"
    (v.conditions.filterMap (·.givenBy v.name base.typeName? [.membership, .equalityChain]))
  pattern : node.HoldsLast "pattern" (v.conditions.filterMap (·.givenBy v.name base.typeName? [.regexCall]))
  bound : ∀ k side, Side.ofKeyword? k = some side → node.HoldsTightest side k ((base.get? k).toList ++
    (v.conditions.filterMap (·.givenBy v.name base.typeName? [.rangeChain])).filterMap (·.get? k))
  default : node.get? "default" = v.default
  description : node.get? "description" = v.description.map .str
  type : node.get? "type" =
    if v.isNullable options.nullableDefault = true ∧ v.type ≠ .valid .any then none else base.get? "type"
  other : ∀ k, Side.ofKeyword? k = none → k ∉ ["enum", "pattern", "default", "description", "type"] →
    node.get? k = base.get? k
  diagnostics : List.Forall₂ (Diagnostic.Reports v.name base.typeName?)
    (v.conditions.filter fun c => (c.givenBy v.name base.typeName? Rule.all).isNone) diagnostics

variable {options : Options} {v : Variable} {base : Node}

theorem get?_setIf_self (k : String) (w : Option Json) (n : Node) : (setIf k w n).get? k = w.or (n.get? k) := by
  cases w with
  | none => rfl
  | some w => exact Node.get?_set_self n k w

/-- Of the allowed values and of the patterns the last stay. -/
theorem holdsLast_applied (hk : k ∈ ["enum", "pattern"]) (hbase : base.get? k = none) : (v.applied base).1.HoldsLast k
    (v.conditions.filterMap (·.givenBy v.name base.typeName? (Rule.settersOf k))) := by
  have hkinds : ∀ l ∈ ["enum", "pattern"], Side.ofKeyword? l = none ∧ "default" ≠ l := by decide
  obtain ⟨hbound, hdefault⟩ := hkinds k hk
  refine Node.holdsLast_of_get?_eq ?_ fun d hd => ?_
  · rw [applied, get?_applyAll_eq_or hbound, get?_setIf hdefault, hbase, Option.or_none, typeName?_setIf_default,
      Condition.filterMap_valueAt]
  · obtain ⟨c, -, hc⟩ := List.mem_filterMap.1 hd
    exact Condition.isSome_get?_of_givenBy hk hc

/-- Of the bounds the tightest stay. -/
theorem holdsTightest_applied {side : Side} (hk : Side.ofKeyword? k = some side)
    (hrange : ∀ c ∈ v.conditions, c.HasNumbersInRange) (hbase : ∀ w, base.get? k = some w → w.IsBound) :
    (v.applied base).1.HoldsTightest side k ((base.get? k).toList ++
      (v.conditions.filterMap (·.givenBy v.name base.typeName? [.rangeChain])).filterMap (·.get? k)) := by
  have hstart : (setIf "default" v.default base).get? k = base.get? k := get?_setIf (by rintro rfl; cases hk) _ _
  have hrun := holdsTightest_applyAll v.name hk hrange (fun w hw => hbase w (Option.mem_toList.1 hw))
    (hstart ▸ Node.holdsTightest_toList side (hstart ▸ hbase))
  rwa [typeName?_setIf_default, Condition.filterMap_valueAt, Rule.settersOf_of_bound hk] at hrun

variable {t : Constraint} {n : Node}

/-- The bounds of a type are lengths of tuples. -/
theorem isBound_baseNode (hn : t.toNode options .top = .ok n)
    (htuple : ∀ ts, t = .tuple ts → ts.length < Binary64.wholeReach) {side : Side} (hk : Side.ofKeyword? k = some side)
    {w : Json} (hw : (v.baseNode options n).get? k = some w) : w.IsBound := by
  have huntouched := Condition.not_mem_untouched_of_bound hk
  rcases baseNode_cases options v n with hself | ⟨hadmits, hwrap⟩
  · rw [hself] at hw
    by_cases hcount : k ∈ Side.countKeywords
    · obtain ⟨ts, rfl, rfl⟩ := Constraint.eq_length_of_toNode hn hcount hw
      exact Json.isBound_length (htuple ts rfl)
    · rw [get?_eq_none_of_toNode hn huntouched hcount] at hw
      cases hw
  · rw [hwrap, Node.get?_wrap_of_not_mem_untouched hadmits v.name huntouched] at hw
    cases hw

/-- The schema of a nullable variable is a wrapper, unless its type is any. -/
theorem isWrapped_baseNode (ht : v.type = .valid t) (hn : t.toNode options .top = .ok n) :
    (v.baseNode options n).isWrapped = true ↔
      v.isNullable options.nullableDefault = true ∧ v.type ≠ .valid .any := by
  have hplain : n.isWrapped = false := (Constraint.isBase_of_toNode hn).isWrapped
  have hadmits := Constraint.admitsNull_of_toNode hn
  rw [baseNode, ht]
  cases v.isNullable options.nullableDefault with
  | false => simp [hplain]
  | true =>
    cases hany : t.isAny with
    | true =>
      obtain rfl := Constraint.eq_any_of_isAny hany
      rw [if_pos rfl, Node.wrap_of_admitsNull (hadmits.trans hany), hplain]
      simp
    | false =>
      have hne : DeclaredType.valid t ≠ .valid .any := by
        rintro heq
        cases heq
        cases hany
      rw [if_pos rfl, Node.isWrapped_wrap (hadmits.trans hany)]
      exact iff_of_true rfl ⟨rfl, hne⟩

theorem get?_type_typeNode (ht : v.type = .valid t) (hn : t.toNode options .top = .ok n) :
    (v.typeNode options (v.baseNode options n)).get? "type" =
      if v.isNullable options.nullableDefault = true ∧ v.type ≠ .valid .any then none
      else (v.baseNode options n).get? "type" := by
  have hwrapped := isWrapped_baseNode ht hn
  unfold typeNode
  split
  · simp only [Node.get?_strip, hwrapped, and_true]
  · next hnullable => rw [if_neg fun h => hnullable h.1]

theorem outcome_finish (ht : v.type = .valid t) (hn : t.toNode options .top = .ok n)
    (htuple : ∀ ts, t = .tuple ts → ts.length < Binary64.wholeReach)
    (hrange : ∀ c ∈ v.conditions, c.HasNumbersInRange) :
    v.Outcome options (v.baseNode options n) (v.finish options (v.baseNode options n))
      (v.applied (v.baseNode options n)).2 := by
  have hnone {k : String} (hk : k ∈ ["enum", "pattern", "default", "description"]) :
      (v.baseNode options n).get? k = none := by
    have hother : ∀ l ∈ ["enum", "pattern", "default", "description"],
        l ∉ ["type", "anyOf", "title"] ∧ l ∉ Constraint.shapeKeywords := by decide
    exact get?_baseNode hn (hother k hk).1 (hother k hk).2
  constructor
  case verdict =>
    intro before c after _ m hm
    rw [Condition.toDelta_congr ((typeName?_applyAll before _).trans ((typeName?_setIf_default _ _).trans hm.symm))]
  case enum =>
    rw [Node.HoldsLast, get?_finish (by decide) (by decide)]
    exact holdsLast_applied (k := "enum") (by decide) (hnone (by decide))
  case pattern =>
    rw [Node.HoldsLast, get?_finish (by decide) (by decide)]
    exact holdsLast_applied (k := "pattern") (by decide) (hnone (by decide))
  case bound =>
    intro k side hk
    rw [Node.HoldsTightest, get?_finish (by rintro rfl; cases hk) (by rintro rfl; cases hk)]
    exact holdsTightest_applied hk hrange fun w hw => isBound_baseNode hn htuple hk hw
  case default =>
    rw [get?_finish (by decide) (by decide), applied, get?_applyAll rfl _ fun _ _ => rfl, get?_setIf_self,
      hnone (by decide), Option.or_none]
  case description =>
    have hstart : (v.applied (v.baseNode options n)).1.get? "description" = none := by
      rw [get?_applied rfl (fun _ _ => rfl) (by decide), hnone (by decide)]
    unfold finish
    split
    · rw [Node.get?_strip, if_neg fun h => absurd h.2 (by decide), get?_setIf_self, hstart, Option.or_none]
    · rw [get?_setIf_self, hstart, Option.or_none]
  case type => rw [get?_finish_of_untouched (by decide) (by decide) (by decide), get?_type_typeNode ht hn]
  case other =>
    intro k hk hnot
    simp only [List.mem_cons, List.not_mem_nil, or_false, not_or] at hnot
    obtain ⟨henum, hpattern, hdefault, hdescription, htype⟩ := hnot
    have hsets (c : Condition) : c.sets v.name k = false := by rw [Condition.sets, if_neg henum, if_neg hpattern]
    rw [get?_finish htype hdescription, get?_applied hk (fun c _ => hsets c) hdefault]
  case diagnostics =>
    have hreports := reports_applyAll v.name v.conditions (setIf "default" v.default (v.baseNode options n))
    rwa [typeName?_setIf_default] at hreports

/-- **What a run of conditions makes of the schema of a variable: whatever their number, it is the outcome of the
type's schema and of each condition by itself, and the order of the conditions changes neither a bound nor, but for
its order, what is left out.** -/
theorem outcome_of_translate (ht : v.type = .valid t)
    (hbase : t.translate v.name (v.isNullable options.nullableDefault) options = .ok base)
    (htuple : ∀ ts, t = .tuple ts → ts.length < Binary64.wholeReach)
    (hrange : ∀ c ∈ v.conditions, c.HasNumbersInRange) :
    ∃ node ds, v.toNode options = .ok (node, ds) ∧ v.Outcome options base node ds ∧
      ∀ cs : List Condition, cs.Perm v.conditions → ∃ node' ds',
        ({ v with conditions := cs } : Variable).toNode options = .ok (node', ds') ∧
        (∀ k, (Side.ofKeyword? k).isSome = true → node'.get? k = node.get? k) ∧ ds'.Perm ds := by
  obtain ⟨n, hn, rfl⟩ := Constraint.translate_eq_ok_iff.1 hbase
  have hself := outcome_finish ht hn htuple hrange
  refine ⟨_, _, toNode_of_valid ht hn, hself, fun cs hcs => ?_⟩
  let u : Variable := { v with conditions := cs }
  have hrange' : ∀ c ∈ u.conditions, c.HasNumbersInRange := fun c hc => hrange c (hcs.mem_iff.1 hc)
  have hother : u.Outcome options (u.baseNode options n) (u.finish options (u.baseNode options n))
      (u.applied (u.baseNode options n)).2 := outcome_finish ht hn htuple hrange'
  refine ⟨_, _, toNode_of_valid (v := u) ht hn, fun k hk => ?_, ?_⟩
  · -- the same values in another order
    obtain ⟨side, hside⟩ := Option.isSome_iff_exists.1 hk
    refine (hother.bound k side hside).get?_eq (hself.bound k side hside) (fun w => ?_) fun w hw => ?_
    · exact (((hcs.filterMap _).filterMap _).append_left _).mem_iff
    · rcases List.mem_append.1 hw with hw | hw
      · exact isBound_baseNode hn htuple hside (Option.mem_toList.1 hw)
      · exact Condition.isBound_of_givenBy hside hrange' hw
  · have hsame : (u.applied (u.baseNode options n)).2.Perm (v.applied (v.baseNode options n)).2 := by
      rw [applied, applied, diagnostics_applyAll, diagnostics_applyAll]
      exact hcs.filterMap _
    exact hsame

/-- A tuple with a tighter and a looser bound of its length, a list of allowed values and a condition that no rule
recognizes, also in reverse. -/
theorem outcome_of_translate_tuple :
    let t : Constraint := .tuple [.primitive .string, .primitive .number]
    let conditions : List Condition :=
      [.compare .ge (.length (.varRef "x")) (.literal (.int 3)), .literal (.bool true),
        .compare .eq (.varRef "x") (.literal .null), .compare .lt (.length (.varRef "x")) (.literal (.int 9))]
    let v : Variable := ⟨"x", .valid t, none, none, some "a pair", conditions⟩
    (∀ ts, t = .tuple ts → ts.length < Binary64.wholeReach) ∧ (∀ c ∈ conditions, c.HasNumbersInRange) ∧
      ∃ base node ds node' ds',
        t.translate "x" (v.isNullable Options.standard.nullableDefault) Options.standard = .ok base ∧
        v.toNode Options.standard = .ok (node, ds) ∧ v.Outcome Options.standard base node ds ∧
        ({ v with conditions := conditions.reverse } : Variable).toNode Options.standard = .ok (node', ds') ∧
        node'.get? "minItems" = node.get? "minItems" ∧ ds'.Perm ds := by
  intro t conditions v
  have hlength (op : Comparison) {i : Int} (hi : (Number.integer i).InRange) :
      (Condition.compare op (.length (.varRef "x")) (.literal (.int i))).HasNumbersInRange := by
    intro op l r hmem n hn
    cases List.mem_singleton.1 hmem
    rcases hn with hn | hn <;> cases hn
    exact hi
  have hnull : (Condition.compare .eq (.varRef "x") (.literal .null)).HasNumbersInRange := by
    intro op l r hmem n hn
    cases List.mem_singleton.1 hmem
    rcases hn with hn | hn <;> cases hn
  have hrange : ∀ c ∈ conditions, c.HasNumbersInRange := by
    refine List.forall_mem_cons.2 ⟨hlength _ ⟨by decide +kernel, by decide +kernel⟩, List.forall_mem_cons.2 ⟨?_,
      List.forall_mem_cons.2 ⟨hnull, List.forall_mem_singleton.2 (hlength _ ⟨by decide +kernel, by decide +kernel⟩)⟩⟩⟩
    exact fun _ _ _ hmem => nomatch hmem
  have htuple : ∀ ts, t = .tuple ts → ts.length < Binary64.wholeReach := by
    intro ts hts
    rw [← Constraint.tuple.inj hts]
    decide +kernel
  have hbase : t.translate v.name (v.isNullable Options.standard.nullableDefault) Options.standard = .ok _ := rfl
  obtain ⟨node, ds, hnode, houtcome, hperm⟩ := outcome_of_translate (v := v) rfl hbase htuple hrange
  obtain ⟨node', ds', hnode', hbounds, hds⟩ := hperm conditions.reverse conditions.reverse_perm
  exact ⟨htuple, hrange, _, node, ds, node', ds', rfl, hnode, houtcome, hnode', hbounds "minItems" rfl, hds⟩

end Variable

end VarSchema
