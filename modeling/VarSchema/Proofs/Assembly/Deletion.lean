import VarSchema.Proofs.Assembly.Independence

/-!
# Ignored and skipped variables are as if they were not there

* `Options.SameSchemas` : two options by which every variable has the same schema (`Variable.toNode_congr`);
* `Assembly.run_without_ignored` : a run without the variables that the options ignore;
* `Assembly.insertSkipped` : the reports of skipped variables put in their places among the other reports;
  `Assembly.run_without_skipped` : a run without the variables whose type has an error;
* `Assembly.run_of_deleted` : both.
-/

namespace VarSchema

/-! ## Options that matter for one variable -/

/-- The options on which the schema of a variable depends are the same. -/
structure Options.SameSchemas (o₁ o₂ : Options) : Prop where
  additional : o₁.allowAdditionalProperties = o₂.allowAdditionalProperties
  required : o₁.requireAll = o₂.requireAll
  nullable : o₁.nullableDefault = o₂.nullableDefault

variable {o₁ o₂ options : Options}

namespace Constraint

mutual
theorem toNode_congr (h : o₁.SameSchemas o₂) : ∀ (position : Position) (t : Constraint),
    toNode o₁ position t = toNode o₂ position t
  | _, .primitive _ => rfl
  | position, .object fields optional => by
    have hnode : objectNode o₁ optional = objectNode o₂ optional := by
      funext properties
      rw [objectNode, objectNode, h.additional, h.required]
    rw [toNode, toNode, fieldNodes_congr h fields, hnode]
  | _, .map t => by rw [toNode, toNode, toNode_congr h .nested t]
  | _, .list t => by rw [toNode, toNode, toNode_congr h .nested t]
  | _, .set t => by rw [toNode, toNode, toNode_congr h .nested t]
  | _, .tuple ts => by rw [toNode, toNode, itemNodes_congr h 0 ts]
termination_by structural _ t => t

theorem fieldNodes_congr (h : o₁.SameSchemas o₂) : ∀ fields : List (String × Constraint),
    fieldNodes o₁ fields = fieldNodes o₂ fields
  | [] => rfl
  | (_, t) :: rest => by rw [fieldNodes, fieldNodes, toNode_congr h .nested t, fieldNodes_congr h rest]
termination_by structural fields => fields

theorem itemNodes_congr (h : o₁.SameSchemas o₂) : ∀ (i : Nat) (ts : List Constraint),
    itemNodes o₁ i ts = itemNodes o₂ i ts
  | _, [] => rfl
  | i, t :: rest => by rw [itemNodes, itemNodes, toNode_congr h .nested t, itemNodes_congr h (i + 1) rest]
termination_by structural _ ts => ts
end

end Constraint

namespace Variable

theorem toNode_congr (h : o₁.SameSchemas o₂) (v : Variable) : v.toNode o₁ = v.toNode o₂ := by
  have htranslate (t : Constraint) (name : String) (nullable : Bool) :
      t.translate name nullable o₁ = t.translate name nullable o₂ := by
    rw [Constraint.translate, Constraint.translate, Constraint.toNode_congr h]
  simp only [toNode, h.nullable, htranslate]

/-- What is left out of a variable that is not ignored only by one of two options. -/
theorem diagnostics_congr (h : o₁.SameSchemas o₂) {v : Variable}
    (hignored : v.name ∈ o₁.ignoreVariables ↔ v.name ∈ o₂.ignoreVariables) :
    v.diagnostics o₁ = v.diagnostics o₂ := by
  simp only [diagnostics, hignored, toNode_congr h]

end Variable

namespace Assembly

variable {vs : List Variable}

/-! ## Ignored variables -/

/-- The options that ignore no variable. -/
theorem sameSchemas_ignoreNone (options : Options) : options.SameSchemas { options with ignoreVariables := [] } :=
  ⟨rfl, rfl, rfl⟩

theorem Parts.addAll_without_ignored : ∀ (vs : List Variable) (p : Parts), Parts.addAll options vs p =
    Parts.addAll { options with ignoreVariables := [] } (vs.filter (·.name ∉ options.ignoreVariables)) p
  | [], p => rfl
  | v :: vs, p => by
    by_cases hignored : v.name ∈ options.ignoreVariables
    · rw [List.filter_cons_of_neg (by simp [hignored]), addAll, add_of_ignored hignored]
      exact addAll_without_ignored vs p
    · have hadd : p.add options v = p.add { options with ignoreVariables := [] } v := by
        have hkept : ({ options with ignoreVariables := [] } : Options).isIgnored v.name = false := rfl
        rw [add, add, Options.isIgnored_eq_false_iff.2 hignored, hkept,
          Variable.toNode_congr (sameSchemas_ignoreNone options)]
      rw [List.filter_cons_of_pos (by simp [hignored]), addAll, addAll, hadd]
      cases p.add { options with ignoreVariables := [] } v with
      | ok q => exact addAll_without_ignored vs q
      | error e => rfl

theorem run_without_ignored (hnames : (vs.map Variable.name).Nodup) : run options vs =
    run { options with ignoreVariables := [] } (vs.filter (·.name ∉ options.ignoreVariables)) := by
  have hkept : ((vs.filter (·.name ∉ options.ignoreVariables)).map Variable.name).Nodup :=
    hnames.sublist (List.filter_sublist.map _)
  unfold run collect
  rw [repeated?_eq_none.2 hnames, repeated?_eq_none.2 hkept, Parts.addAll_without_ignored vs]
  rfl

/-! ## Skipped variables -/

/-- Puts the report of each skipped variable in the variable's place among the reports about the others. -/
def insertSkipped (options : Options) : List Variable → List Diagnostic → List Diagnostic
  | [], ds => ds
  | v :: vs, ds =>
    match v.typeSchema options with
    | .ok _ =>
      ds.takeWhile (fun d => d.name == v.name) ++ insertSkipped options vs (ds.dropWhile fun d => d.name == v.name)
    | .error e =>
      if v.name ∈ options.ignoreVariables then insertSkipped options vs ds
      else .variableSkipped v.name e :: insertSkipped options vs ds

theorem takeWhile_append_of_names {k : String} {ds es : List Diagnostic} (hds : ∀ d ∈ ds, d.name = k)
    (hes : ∀ d ∈ es, d.name ≠ k) : (ds ++ es).takeWhile (fun d => d.name == k) = ds ∧
      (ds ++ es).dropWhile (fun d => d.name == k) = es := by
  have hpos : ∀ d ∈ ds, (d.name == k) = true := fun d hd => beq_iff_eq.2 (hds d hd)
  rw [List.takeWhile_append_of_pos hpos, List.dropWhile_append_of_pos hpos]
  cases es with
  | nil => simp
  | cons e es =>
    have hfirst : e.name ≠ k := hes e (List.mem_cons_self ..)
    simp [hfirst]

/-- The reports about the variables whose type is right, with those of the others put in. -/
theorem insertSkipped_flatMap : ∀ {vs : List Variable}, (vs.map Variable.name).Nodup →
    insertSkipped options vs
      ((vs.filter fun v => (v.typeSchema options).isOk).flatMap (Variable.diagnostics options)) =
    vs.flatMap (Variable.diagnostics options)
  | [], _ => rfl
  | v :: vs, hnames => by
    obtain ⟨hname, hrest⟩ := List.nodup_cons.1 hnames
    rw [insertSkipped, List.flatMap_cons]
    cases hbase : v.typeSchema options with
    | ok base =>
      have hothers : ∀ d ∈ (vs.filter fun v => (v.typeSchema options).isOk).flatMap (Variable.diagnostics options),
          d.name ≠ v.name := by
        intro d hd heq
        obtain ⟨u, hu, hd⟩ := List.mem_flatMap.1 hd
        rw [Variable.name_of_mem_diagnostics hd] at heq
        exact hname (heq ▸ List.mem_map_of_mem (List.mem_filter.1 hu).1)
      have hown : ∀ d ∈ v.diagnostics options, d.name = v.name := fun d hd => Variable.name_of_mem_diagnostics hd
      obtain ⟨htake, hdrop⟩ := takeWhile_append_of_names hown hothers
      rw [List.filter_cons_of_pos (by rw [hbase]; rfl), List.flatMap_cons]
      simp only [htake, hdrop, insertSkipped_flatMap hrest]
    | error e =>
      rw [List.filter_cons_of_neg (by rw [hbase]; exact Bool.false_ne_true)]
      simp only [insertSkipped_flatMap hrest]
      by_cases hignored : v.name ∈ options.ignoreVariables
      · simp [Variable.diagnostics, hignored]
      · simp [Variable.diagnostics_of_toNode_eq_error hignored (Variable.toNode_eq_error_iff.2 hbase), hignored]

theorem sameSchemas_policy (options : Options) (policy : TypeErrorPolicy) :
    options.SameSchemas { options with onTypeError := policy } := ⟨rfl, rfl, rfl⟩

/-- Adding variables and skipping faulty ones gives the properties and required names of the others. -/
theorem Parts.addAll_without_skipped (hskip : options.onTypeError = .skip) (policy : TypeErrorPolicy)
    (vs : List Variable) {p q : Parts} (hproperties : p.properties = q.properties)
    (hrequired : p.required = q.required) :
    ∃ p' q', Parts.addAll options vs p = (p', none) ∧
      Parts.addAll { options with onTypeError := policy } (vs.filter fun v => (v.typeSchema options).isOk) q =
        (q', none) ∧
      p'.properties = q'.properties ∧ p'.required = q'.required := by
  induction vs generalizing p q with
  | nil => exact ⟨p, q, rfl, rfl, hproperties, hrequired⟩
  | cons v vs ih =>
    have hsame := Variable.toNode_congr (sameSchemas_policy options policy) v
    cases hbase : v.typeSchema options with
    | ok base =>
      rw [List.filter_cons_of_pos (by rw [hbase]; rfl)]
      by_cases hignored : v.name ∈ options.ignoreVariables
      · have hignored' : v.name ∈ ({ options with onTypeError := policy } : Options).ignoreVariables := hignored
        simp only [addAll, add_of_ignored hignored, add_of_ignored hignored']
        exact ih hproperties hrequired
      · have hkept : v.name ∉ ({ options with onTypeError := policy } : Options).ignoreVariables := hignored
        have hn := Variable.toNode_of_typeSchema hbase
        simp only [addAll, add_of_ok hignored hn, add_of_ok hkept (hsame ▸ hn)]
        exact ih (by rw [hproperties]) (by rw [hrequired])
    | error e =>
      rw [List.filter_cons_of_neg (by rw [hbase]; exact Bool.false_ne_true)]
      by_cases hignored : v.name ∈ options.ignoreVariables
      · simp only [addAll, add_of_ignored hignored]
        exact ih hproperties hrequired
      · simp only [addAll, add_of_error hignored (Variable.toNode_eq_error_iff.2 hbase), hskip]
        exact ih hproperties hrequired

theorem run_without_skipped (hnames : (vs.map Variable.name).Nodup) (hskip : options.onTypeError = .skip)
    (policy : TypeErrorPolicy) : run options vs =
      (run { options with onTypeError := policy } (vs.filter fun v => (v.typeSchema options).isOk)).map fun a =>
        ⟨a.schema, insertSkipped options vs a.diagnostics⟩ := by
  have hnames' : ((vs.filter fun v => (v.typeSchema options).isOk).map Variable.name).Nodup :=
    hnames.sublist (List.filter_sublist.map _)
  obtain ⟨p, q, hp, hq, hproperties, hrequired⟩ :=
    Parts.addAll_without_skipped hskip policy vs (p := default) (q := default) rfl rfl
  have hpDiagnostics := (collected_nil.addAll hnames hp).diagnostics
  have hqDiagnostics := (collected_nil.addAll hnames' hq).diagnostics
  have hdiagnostics : insertSkipped options vs q.diagnostics = p.diagnostics := by
    have hsame : q.diagnostics =
        (vs.filter fun v => (v.typeSchema options).isOk).flatMap (Variable.diagnostics options) := by
      rw [hqDiagnostics, List.nil_append]
      apply List.flatMap_congr
      intro v _
      exact (Variable.diagnostics_congr (sameSchemas_policy options policy) Iff.rfl).symm
    rw [hsame, insertSkipped_flatMap hnames, hpDiagnostics, List.nil_append]
  have hroot : root options p = root { options with onTypeError := policy } q := by
    rw [root, root, hproperties, hrequired]
    rfl
  rw [run_of_addAll hnames hp, run_of_addAll hnames' hq, hproperties]
  cases q.properties.entries.isEmpty && !options.allowEmpty with
  | true => rfl
  | false =>
    rw [hroot, ← hdiagnostics]
    rfl

/-- **To ignore or to skip a variable is to delete it.** A run gives what it gives without the variables that are
ignored and without names to ignore. And if faulty types are skipped, a run fails at most for lack of variables,
and gives what any run of the variables whose types are right gives, but for the reports of the others in their
places. -/
theorem run_of_deleted (hnames : (vs.map Variable.name).Nodup) (options : Options) :
    run options vs =
      run { options with ignoreVariables := [] } (vs.filter (·.name ∉ options.ignoreVariables)) ∧
    (options.onTypeError = .skip → (∀ e, run options vs = .error e → e = .noVariables) ∧
      ∀ policy, run options vs =
        (run { options with onTypeError := policy } (vs.filter fun v => (v.typeSchema options).isOk)).map fun a =>
          ⟨a.schema, insertSkipped options vs a.diagnostics⟩) := by
  refine ⟨run_without_ignored hnames, fun hskip => ⟨fun e he => ?_, run_without_skipped hnames hskip⟩⟩
  obtain ⟨p, -, hp, -⟩ := Parts.addAll_without_skipped hskip .skip vs (p := default) (q := default) rfl rfl
  rcases run_of_collected hnames hp with ⟨-, -, hrun⟩ | ⟨-, hrun⟩
  · rw [hrun] at he
    exact (Except.error.inj he).symm
  · rw [hrun] at he
    cases he

/-- A faulty variable that is ignored, one that is skipped, and one with a condition that no rule recognizes. -/
theorem run_of_deleted_faulty :
    let faulty (name : String) : Variable :=
      ⟨name, .malformed .null (.unknownKind "capsule"), none, none, none, []⟩
    let v : Variable :=
      ⟨"x", .valid (.primitive .string), none, none, none, [.compare .ne (.varRef "x") (.literal (.str "a"))]⟩
    let options : Options := { Options.standard with ignoreVariables := ["a"], onTypeError := .skip }
    ([faulty "b", faulty "a", v].map Variable.name).Nodup ∧ options.onTypeError = .skip ∧
      run options [faulty "b", faulty "a", v] = run { options with ignoreVariables := [] } [faulty "b", v] ∧
      run options [faulty "b", faulty "a", v] = (run { options with onTypeError := .fail } [v]).map fun a =>
        ⟨a.schema, insertSkipped options [faulty "b", faulty "a", v] a.diagnostics⟩ := by
  intro faulty v options
  have hnames : ([faulty "b", faulty "a", v].map Variable.name).Nodup := by decide
  obtain ⟨hignored, hskipped⟩ := run_of_deleted hnames options
  exact ⟨hnames, rfl, hignored, (hskipped rfl).2 .fail⟩

end Assembly

end VarSchema
