import Mathlib.Data.List.Nodup
import VarSchema.Proofs.Assembly.Conditions
import VarSchema.Proofs.Assembly.Verdict

/-!
# Variables do not depend on each other

* `Variable.name_of_mem_diagnostics` : what is left out of a variable is reported under its name;
  `Variable.variableSkipped_mem_diagnostics_iff` : when it is the variable itself;
* `Assembly.diagnosticsOf` : the reports of a run about one variable; `Assembly.IsRootOf.diagnosticsOf_eq` : they are
  those of the variable by itself;
* `Assembly.run_isOk_of_perm`, `Assembly.IsRootOf.diagnosticsOf_of_perm` : a run of the variables in another order;
* `Assembly.IsRootOf.replaced` : a run with another variable in the place of one;
* `Assembly.run_independent` : both.
-/

namespace VarSchema

/-! ## Reports -/

namespace Variable

/-- Conditions are all that a run of conditions leaves out. -/
theorem exists_of_mem_applyAll {name : String} {d : Diagnostic} : ∀ {cs : List Condition} {n : Node},
    d ∈ (applyAll name cs n).2 → ∃ cause, d = .conditionNotApplicable name cause
  | [], _, h => by cases h
  | c :: cs, n, h => by
    cases hc : c.toDelta name n with
    | ok delta =>
      rw [applyAll_of_ok hc] at h
      exact exists_of_mem_applyAll h
    | error cause =>
      rw [applyAll_of_error hc] at h
      rcases List.mem_cons.1 h with rfl | h
      · exact ⟨cause, rfl⟩
      · exact exists_of_mem_applyAll h

/-- A variable is skipped if it is not ignored and its type has an error. -/
theorem variableSkipped_mem_diagnostics_iff {options : Options} {v : Variable} {e : TypeError} :
    .variableSkipped v.name e ∈ v.diagnostics options ↔
      v.name ∉ options.ignoreVariables ∧ v.typeSchema options = .error e := by
  rw [diagnostics]
  by_cases hignored : v.name ∈ options.ignoreVariables
  · simp [hignored]
  · rw [if_neg hignored, and_iff_right hignored, toNode_eq]
    cases v.typeSchema options with
    | error e' => simp [Except.map, eq_comm]
    | ok base =>
      constructor
      · intro h
        obtain ⟨cause, hcause⟩ := exists_of_mem_applyAll h
        cases hcause
      · intro h
        cases h

/-- What is left out of a variable is reported under its name. -/
theorem name_of_mem_diagnostics {options : Options} {v : Variable} {d : Diagnostic}
    (h : d ∈ v.diagnostics options) : d.name = v.name := by
  unfold diagnostics at h
  split at h
  · cases h
  · rw [toNode_eq] at h
    cases hbase : v.typeSchema options with
    | ok base =>
      rw [hbase] at h
      obtain ⟨cause, rfl⟩ := exists_of_mem_applyAll h
      rfl
    | error e =>
      rw [hbase] at h
      rw [List.mem_singleton.1 h]
      rfl

end Variable

namespace Assembly

variable {options : Options} {vs ws before after : List Variable} {v w : Variable} {a b : Assembly} {name : String}

/-- The reports about one variable, in order. -/
def diagnosticsOf (a : Assembly) (name : String) : List Diagnostic := a.diagnostics.filter fun d => d.name == name

theorem filter_diagnostics_self (v : Variable) :
    ((v.diagnostics options).filter fun d => d.name == v.name) = v.diagnostics options := by
  rw [List.filter_eq_self]
  intro d hd
  simp [Variable.name_of_mem_diagnostics hd]

theorem filter_flatMap_diagnostics_eq_nil (h : name ∉ vs.map Variable.name) :
    ((vs.flatMap (Variable.diagnostics options)).filter fun d => d.name == name) = [] := by
  rw [List.filter_eq_nil_iff]
  intro d hd
  obtain ⟨v, hv, hd⟩ := List.mem_flatMap.1 hd
  rw [Variable.name_of_mem_diagnostics hd, beq_iff_eq]
  rintro rfl
  exact h (List.mem_map_of_mem hv)

/-- The reports about a variable are its own. -/
theorem IsRootOf.diagnosticsOf_eq (ha : a.IsRootOf options (before ++ v :: after))
    (hnames : ((before ++ v :: after).map Variable.name).Nodup) : a.diagnosticsOf v.name = v.diagnostics options := by
  rw [List.map_append, List.map_cons, List.nodup_append] at hnames
  obtain ⟨-, hafter, hdisjoint⟩ := hnames
  have hbefore : v.name ∉ before.map Variable.name := fun hv => hdisjoint _ hv _ (List.mem_cons_self ..) rfl
  rw [diagnosticsOf, ha.diagnostics, List.flatMap_append, List.flatMap_cons, List.filter_append, List.filter_append,
    filter_flatMap_diagnostics_eq_nil hbefore, filter_diagnostics_self,
    filter_flatMap_diagnostics_eq_nil (List.nodup_cons.1 hafter).1, List.nil_append, List.append_nil]

theorem IsRootOf.diagnosticsOf_of_mem (ha : a.IsRootOf options vs) (hnames : (vs.map Variable.name).Nodup)
    (hv : v ∈ vs) : a.diagnosticsOf v.name = v.diagnostics options := by
  obtain ⟨before, after, rfl⟩ := List.append_of_mem hv
  exact ha.diagnosticsOf_eq hnames

theorem IsRootOf.diagnosticsOf_of_not_mem (ha : a.IsRootOf options vs) (h : name ∉ vs.map Variable.name) :
    a.diagnosticsOf name = [] := by
  rw [diagnosticsOf, ha.diagnostics, filter_flatMap_diagnostics_eq_nil h]

/-- All reports are those about each variable, in the order of the variables. -/
theorem IsRootOf.diagnostics_eq_flatMap (ha : a.IsRootOf options vs) (hnames : (vs.map Variable.name).Nodup) :
    a.diagnostics = vs.flatMap fun v => a.diagnosticsOf v.name := by
  rw [ha.diagnostics]
  apply List.flatMap_congr
  intro v hv
  rw [ha.diagnosticsOf_of_mem hnames hv]

/-! ## Another order -/

theorem run_isOk_of_perm (h : vs.Perm ws) : (run options vs).isOk = (run options ws).isOk := by
  rw [Bool.eq_iff_iff, run_isOk_iff, run_isOk_iff, (h.map Variable.name).nodup_iff]
  simp only [h.mem_iff]

/-- The reports about each variable are the same in any order. -/
theorem IsRootOf.diagnosticsOf_of_perm (h : vs.Perm ws) (hnames : (vs.map Variable.name).Nodup)
    (ha : a.IsRootOf options vs) (hb : b.IsRootOf options ws) (name : String) :
    a.diagnosticsOf name = b.diagnosticsOf name := by
  by_cases hname : name ∈ vs.map Variable.name
  · obtain ⟨v, hv, rfl⟩ := List.mem_map.1 hname
    rw [ha.diagnosticsOf_of_mem hnames hv,
      hb.diagnosticsOf_of_mem ((h.map Variable.name).nodup_iff.1 hnames) (h.mem_iff.1 hv)]
  · rw [ha.diagnosticsOf_of_not_mem hname, hb.diagnosticsOf_of_not_mem (mt (h.map Variable.name).mem_iff.2 hname)]

/-! ## Another variable in the place of one -/

theorem exists_mem_replaced {r : Variable → Prop} (h : r v ↔ r w) :
    (∃ u ∈ before ++ v :: after, r u) ↔ ∃ u ∈ before ++ w :: after, r u := by
  simp only [List.mem_append, List.mem_cons, or_and_right, exists_or, exists_eq_left, h]

/-- The properties of the root with another variable are those of the root with the one, but for this one's. -/
theorem get?_properties_replaced {m n : KeyMap Json} {s : Json} (hname : w.name = v.name) (hs : w.Yields options s)
    (hm : ∀ k s, m.get? k = some s ↔ ∃ u ∈ before ++ v :: after, u.name = k ∧ u.Yields options s)
    (hn : ∀ k s, n.get? k = some s ↔ ∃ u ∈ before ++ w :: after, u.name = k ∧ u.Yields options s) :
    n = m.insert v.name s := by
  apply KeyMap.ext_get?
  intro k
  rw [KeyMap.get?_insert]
  split
  · next hk =>
    exact (hn k s).2 ⟨w, by simp, hname.trans hk, hs⟩
  · next hk =>
    apply Option.ext
    intro t
    rw [hn, hm]
    exact (exists_mem_replaced (iff_of_false (fun h => hk h.1) fun h => hk (hname ▸ h.1))).symm

/-- Another variable of the name that must be given if the one must changes nothing but what is about it. -/
theorem IsRootOf.replaced (hname : w.name = v.name) (hdefault : w.default.isSome = v.default.isSome)
    (hv : v.Emitted options) (hw : w.Emitted options) (hnames : ((before ++ v :: after).map Variable.name).Nodup)
    (ha : a.IsRootOf options (before ++ v :: after)) (hb : b.IsRootOf options (before ++ w :: after)) :
    (∃ (properties : KeyMap Json) (s : Json), a.schema.get? "properties" = some (.obj properties.entries) ∧
      b.schema = a.schema.set "properties" (.obj (properties.insert v.name s).entries)) ∧
    ∃ ds es, a.diagnostics = ds ++ a.diagnosticsOf v.name ++ es ∧
      b.diagnostics = ds ++ b.diagnosticsOf v.name ++ es := by
  have hnames' : ((before ++ w :: after).map Variable.name).Nodup := by
    simpa only [List.map_append, List.map_cons, hname] using hnames
  constructor
  · obtain ⟨m, hm, -, hmget⟩ := ha.properties
    obtain ⟨n, hn, -, hnget⟩ := hb.properties
    obtain ⟨s, hs⟩ := Variable.emitted_iff.1 hw
    refine ⟨m, s, hm, Node.ext_get? fun k => ?_⟩
    rw [Node.get?_set]
    split
    · next hk => rw [← hk, hn, get?_properties_replaced hname hs hmget hnget]
    · next hk =>
      have hnone : v.default = none ↔ w.default = none := by
        rw [← Option.not_isSome_iff_eq_none, ← Option.not_isSome_iff_eq_none, hdefault]
      have hgiven : v.MustBeGiven options ↔ w.MustBeGiven options := by
        rw [Variable.MustBeGiven, Variable.MustBeGiven, hnone, and_iff_right hv, and_iff_right hw]
      exact (ha.get?_eq hb (fun k => exists_mem_replaced (by rw [hname, hgiven])) (Ne.symm hk)).symm
  · refine ⟨before.flatMap (Variable.diagnostics options), after.flatMap (Variable.diagnostics options), ?_, ?_⟩
    · rw [ha.diagnosticsOf_eq hnames, ha.diagnostics]
      simp
    · rw [← hname, hb.diagnosticsOf_eq hnames', hb.diagnostics]
      simp

/-! ## Independence -/

/-- **Variables do not depend on each other.** In another order of the variables a run succeeds if and only if it did;
then the root is the same, and so are the reports about each variable, which follow each other in the order of the
variables. And if another variable stands in the place of one, of the same name and with a default if that has one,
then, as long as both are emitted, at most the entry of that name in the properties and the reports about it change. -/
theorem run_independent (options : Options) :
    (∀ vs ws : List Variable, vs.Perm ws → (run options vs).isOk = (run options ws).isOk ∧
      ∀ a b, run options vs = .ok a → run options ws = .ok b → a.schema = b.schema ∧
        (∀ name, a.diagnosticsOf name = b.diagnosticsOf name) ∧
        a.diagnostics = vs.flatMap (fun v => a.diagnosticsOf v.name) ∧
        b.diagnostics = ws.flatMap fun v => b.diagnosticsOf v.name) ∧
    (∀ (before after : List Variable) (v w : Variable) (a b : Assembly), w.name = v.name →
      w.default.isSome = v.default.isSome → v.Emitted options → w.Emitted options →
      run options (before ++ v :: after) = .ok a → run options (before ++ w :: after) = .ok b →
      (∃ (properties : KeyMap Json) (s : Json), a.schema.get? "properties" = some (.obj properties.entries) ∧
        b.schema = a.schema.set "properties" (.obj (properties.insert v.name s).entries)) ∧
      ∃ ds es, a.diagnostics = ds ++ a.diagnosticsOf v.name ++ es ∧
        b.diagnostics = ds ++ b.diagnosticsOf v.name ++ es) := by
  constructor
  · intro vs ws h
    refine ⟨run_isOk_of_perm h, fun a b ha hb => ?_⟩
    obtain ⟨-, hvs, -, -⟩ := run_eq_ok ha
    have hws := (h.map Variable.name).nodup_iff.1 hvs
    have hrootA := isRootOf_of_run ha
    have hrootB := isRootOf_of_run hb
    exact ⟨hrootA.schema_eq hrootB fun _ => h.mem_iff, hrootA.diagnosticsOf_of_perm h hvs hrootB,
      hrootA.diagnostics_eq_flatMap hvs, hrootB.diagnostics_eq_flatMap hws⟩
  · intro before after v w a b hname hdefault hv hw ha hb
    obtain ⟨-, hnames, -, -⟩ := run_eq_ok ha
    exact (isRootOf_of_run ha).replaced hname hdefault hv hw hnames (isRootOf_of_run hb)

/-- A variable with a condition that no rule recognizes, behind another one instead of in front of it; and a nullable
boolean in the place of a number. -/
theorem run_independent_swapped :
    let c : Condition := .compare .ne (.varRef "x") (.literal (.str "a"))
    let v : Variable := ⟨"x", .valid (.primitive .string), none, none, none, [c]⟩
    let w : Variable := ⟨"y", .valid (.primitive .number), none, some .null, none, []⟩
    let w' : Variable := ⟨"y", .valid (.primitive .bool), some true, some (.bool true), none, []⟩
    ∃ a b a' properties s, run Options.standard [v, w] = .ok a ∧ run Options.standard [w, v] = .ok b ∧
      a.schema = b.schema ∧ a.diagnosticsOf "x" = b.diagnosticsOf "x" ∧ run Options.standard [v, w'] = .ok a' ∧
      a'.schema = a.schema.set "properties" (.obj (KeyMap.insert properties "y" s).entries) := by
  intro c v w w'
  obtain ⟨a, ha⟩ := Except.isOk_iff.1 (show (run Options.standard [v, w]).isOk = true by decide +kernel)
  obtain ⟨b, hb⟩ := Except.isOk_iff.1 (show (run Options.standard [w, v]).isOk = true by decide +kernel)
  obtain ⟨a', ha'⟩ := Except.isOk_iff.1 (show (run Options.standard [v, w']).isOk = true by decide +kernel)
  obtain ⟨horder, hplace⟩ := run_independent Options.standard
  obtain ⟨hschema, hreports, -, -⟩ := (horder [v, w] [w, v] (.swap w v [])).2 a b ha hb
  obtain ⟨⟨properties, s, -, hreplaced⟩, -⟩ :=
    hplace [v] [] w w' a a' rfl rfl ⟨nofun, _, _, rfl, rfl⟩ ⟨nofun, _, _, rfl, rfl⟩ ha ha'
  exact ⟨a, b, a', properties, s, ha, hb, hschema, hreports "x", ha', hreplaced⟩

end Assembly

end VarSchema
