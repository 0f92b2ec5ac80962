import VarSchema.Proofs.Assembly.Acceptance
import VarSchema.Proofs.Assembly.Independence
import VarSchema.Proofs.Variable.Retyping

/-!
# A bad type stays with its variable

* `Assembly.requiredNames` : the names that a root requires; `Assembly.IsRootOf.mem_requiredNames` : which they are;
* `Assembly.IsRootOf.same_about_others` : a run with another variable in the place of one, emitted or not, gives the
  same about all others; `Assembly.run_isOk_of_skip` : a run that skips faulty types fails at most for lack of
  variables;
* `Variable.typeSchema_ofJson_eq_error_iff` : the type of a variable is faulty exactly if the value given as it is no
  type;
* `VariableFile.run_of_retyped` : whatever value is given as the type of a variable in a file, only this variable is
  concerned.
-/

namespace VarSchema

namespace Assembly

variable {options : Options} {vs before after : List Variable} {u v w : Variable} {a b : Assembly} {k : String}

/-! ## Required names -/

/-- The names that a root requires. -/
def requiredNames (a : Assembly) : List String :=
  ((a.schema.get? "required").elim [] Assertion.itemsOf).filterMap Json.text?

theorem IsRootOf.mem_requiredNames (ha : a.IsRootOf options vs) :
    k ∈ a.requiredNames ↔ ∃ v ∈ vs, v.name = k ∧ v.MustBeGiven options := by
  obtain ⟨names, hnames, -, hmem⟩ := ha.required
  rw [requiredNames, hnames, Option.elim_some, Assertion.itemsOf, Json.filterMap_text?_map_str, hmem]

theorem IsRootOf.property?_eq_some_iff (ha : a.IsRootOf options vs) (s : Json) :
    a.property? k = some s ↔ ∃ v ∈ vs, v.name = k ∧ v.Yields options s := by
  obtain ⟨m, hm, -, hget⟩ := ha.properties
  rw [property?, hm, ← hget]
  rfl

/-! ## Another variable in the place of one -/

/-- Another variable of the name changes nothing that a run gives about the others. -/
theorem IsRootOf.same_about_others (hname : w.name = v.name)
    (hnames : ((before ++ v :: after).map Variable.name).Nodup) (ha : a.IsRootOf options (before ++ v :: after))
    (hb : b.IsRootOf options (before ++ w :: after)) (hu : u ∈ before ++ after) :
    b.property? u.name = a.property? u.name ∧ (u.name ∈ b.requiredNames ↔ u.name ∈ a.requiredNames) ∧
      b.diagnosticsOf u.name = a.diagnosticsOf u.name := by
  have hnames' : ((before ++ w :: after).map Variable.name).Nodup := by
    simpa only [List.map_append, List.map_cons, hname] using hnames
  have hother : v.name ≠ u.name := by
    rw [List.map_append, List.map_cons, List.nodup_middle, List.nodup_cons, ← List.map_append] at hnames
    exact fun heq => hnames.1 (heq ▸ List.mem_map_of_mem hu)
  have hneither (r : Variable → Prop) : (v.name = u.name ∧ r v) ↔ (w.name = u.name ∧ r w) :=
    iff_of_false (fun h => hother h.1) fun h => hother (hname ▸ h.1)
  refine ⟨?_, ?_, ?_⟩
  · apply Option.ext
    intro s
    rw [hb.property?_eq_some_iff, ha.property?_eq_some_iff]
    exact (exists_mem_replaced (hneither fun x => x.Yields options s)).symm
  · rw [hb.mem_requiredNames, ha.mem_requiredNames]
    exact (exists_mem_replaced (hneither fun x => x.MustBeGiven options)).symm
  · have hmem (x : Variable) : u ∈ before ++ x :: after := by
      rw [List.mem_append, List.mem_cons]
      exact (List.mem_append.1 hu).imp_right .inr
    rw [hb.diagnosticsOf_of_mem hnames' (hmem w), ha.diagnosticsOf_of_mem hnames (hmem v)]

/-- A run that skips faulty types succeeds if some variable has a schema. -/
theorem run_isOk_of_skip (hskip : options.onTypeError = .skip) (hnames : (vs.map Variable.name).Nodup)
    (hu : u ∈ vs) (hemitted : u.Emitted options) : ∃ a, run options vs = .ok a := by
  rw [← Except.isOk_iff, run_isOk_iff]
  refine ⟨hnames, fun v _ hfail => ?_, .inr ⟨u, hu, hemitted⟩⟩
  cases hskip.symm.trans hfail

theorem IsRootOf.variableSkipped_mem_iff (ha : a.IsRootOf options vs) (hnames : (vs.map Variable.name).Nodup)
    (hv : v ∈ vs) (e : TypeError) : .variableSkipped v.name e ∈ a.diagnostics ↔
      v.name ∉ options.ignoreVariables ∧ v.typeSchema options = .error e := by
  rw [← Variable.variableSkipped_mem_diagnostics_iff, ← ha.diagnosticsOf_of_mem hnames hv, diagnosticsOf,
    List.mem_filter]
  exact (and_iff_left (beq_iff_eq.2 rfl)).symm

end Assembly

/-- The type of a variable has an error if and only if the value that was given as the type is none. -/
theorem Variable.typeSchema_ofJson_eq_error_iff {options : Options} {v : Variable} {j : Json} {e : TypeError}
    (hv : v.type = DeclaredType.ofJson j) : v.typeSchema options = .error e ↔ Constraint.ofJson j = .error e := by
  cases hj : Constraint.ofJson j with
  | error e' =>
    have hconstraint : v.type.constraint = .error e' := by rw [hv, DeclaredType.ofJson, hj, DeclaredType.constraint]
    simp only [typeSchema, hconstraint, Except.bind, Except.error.injEq]
  | ok t =>
    obtain ⟨n, hn, -⟩ := Constraint.toNode_represents options t .top (Constraint.wellFormed_and_toJson_of_ofJson hj).1
    have hconstraint : v.type.constraint = .ok t := by rw [hv, DeclaredType.ofJson, hj, DeclaredType.constraint]
    have hbase : t.translate v.name (v.isNullable options.nullableDefault) options = .ok (v.baseNode options n) :=
      Constraint.translate_eq_ok_iff.2 ⟨n, hn, rfl⟩
    simp only [typeSchema, hconstraint, Except.bind, hbase, reduceCtorEq]

namespace VariableFile

variable {file file' : Json} {f : VariableFile} {before after : List Json} {fields fields' : Entries Json} {j : Json}

/-- **Whatever value is given as the type of a variable in a file, only this variable is concerned.** The file is read
as before but for that type, and a value that is no type is written as it was, of repeated keys the last one staying.
If faulty types are skipped, names are distinct and another variable has a schema, then runs succeed and give the same
about every other variable, and the variable is reported as skipped, with the reader's error, if and only if it is not
ignored and the value is no type. -/
theorem run_of_retyped (hfile : ofJson? file = some f) (hitems : items? file = some (before ++ .obj fields :: after))
    (hitems' : items? file' = some (before ++ .obj fields' :: after)) (hretyped : Retyped fields j fields') :
    ∃ us v ws, us.length = before.length ∧ f.declarations = us ++ v :: ws ∧
      let v' : Variable := { v with type := DeclaredType.ofJson j.canonical }
      ofJson? file' = some ⟨us ++ v' :: ws⟩ ∧
      (∀ e, Constraint.ofJson j.canonical = .error e →
        (mk (us ++ v' :: ws)).toJson =
          .obj [("variables", .arr (us.map Variable.toJson ++ v'.toJson :: ws.map Variable.toJson))] ∧
        (∀ k, v'.toJson.field? k = if k = "type" then some j.canonical else v.toJson.field? k) ∧
        (j.Ordered → j.canonical = j)) ∧
      ∀ options : Options, options.onTypeError = .skip → (f.declarations.map Variable.name).Nodup →
        (∃ u ∈ us ++ ws, u.Emitted options) →
        ∃ a b, Assembly.run options f.declarations = .ok a ∧ Assembly.run options (us ++ v' :: ws) = .ok b ∧
          (∀ u ∈ us ++ ws, b.property? u.name = a.property? u.name ∧
            (u.name ∈ b.requiredNames ↔ u.name ∈ a.requiredNames) ∧
            b.diagnosticsOf u.name = a.diagnosticsOf u.name) ∧
          ∀ e, .variableSkipped v.name e ∈ b.diagnostics ↔
            v.name ∉ options.ignoreVariables ∧ Constraint.ofJson j.canonical = .error e := by
  obtain ⟨us, v, ws, hlength, hdeclarations, hread⟩ := ofJson?_of_retyped hfile hitems hitems' hretyped
  refine ⟨us, v, ws, hlength, hdeclarations, hread, fun e he => ⟨?_, fun k => ?_, Json.canonical_of_ordered⟩, ?_⟩
  · simp [toJson]
  · have hraw : (DeclaredType.ofJson j.canonical).toJson = j.canonical := by
      rw [DeclaredType.ofJson, he, DeclaredType.toJson]
    rw [Variable.field?_toJson_retyped, hraw]
  · rintro options hskip hnames ⟨u, hu, hemitted⟩
    rw [hdeclarations] at hnames ⊢
    let v' : Variable := { v with type := DeclaredType.ofJson j.canonical }
    have hnames' : ((us ++ v' :: ws).map Variable.name).Nodup := by
      simpa only [List.map_append, List.map_cons] using hnames
    have hmem (x : Variable) : u ∈ us ++ x :: ws := by
      rw [List.mem_append, List.mem_cons]
      exact (List.mem_append.1 hu).imp_right .inr
    obtain ⟨a, ha⟩ := Assembly.run_isOk_of_skip hskip hnames (hmem v) hemitted
    obtain ⟨b, hb⟩ := Assembly.run_isOk_of_skip hskip hnames' (hmem v') hemitted
    have hroot := Assembly.isRootOf_of_run ha
    have hroot' := Assembly.isRootOf_of_run hb
    refine ⟨a, b, ha, hb, fun x hx => hroot.same_about_others (v := v) (w := v') rfl hnames hroot' hx, fun e => ?_⟩
    have hskipped := hroot'.variableSkipped_mem_iff hnames' (v := v') (by simp) e
    rwa [Variable.typeSchema_ofJson_eq_error_iff rfl] at hskipped

/-- An object type with an optional attribute that it does not declare, in the place of a type behind which the name
stands. -/
theorem run_of_retyped_undeclared :
    let j : Json := .arr [.str "object", .obj [("a", .str "string")], .arr [.str "b"]]
    let first : Json := .obj [("name", .str "ok"), ("type", .str "string")]
    let fields : Entries Json := [("type", .str "number"), ("name", .str "bad"), ("default", .null)]
    let file (fields : Entries Json) : Json := .obj [("variables", .arr [first, .obj fields])]
    let options : Options := { Options.standard with onTypeError := .skip }
    ∃ u v b, ofJson? (file (setType j fields)) = some ⟨[u, v]⟩ ∧ v.default = some .null ∧
      v.toJson.field? "type" = some j ∧ Assembly.run options [u, v] = .ok b ∧
      .variableSkipped "bad" (.structural (.undeclaredOptional "b")) ∈ b.diagnostics := by
  intro j first fields file options
  let u : Variable := ⟨"ok", .valid (.primitive .string), none, none, none, []⟩
  let v : Variable := ⟨"bad", .valid (.primitive .number), none, some .null, none, []⟩
  have hfile : ofJson? (file fields) = some ⟨[u, v]⟩ := by decide +kernel
  have herror : Constraint.ofJson j.canonical = .error (.structural (.undeclaredOptional "b")) := by decide +kernel
  have hitems (es : Entries Json) : items? (file es) = some ([first] ++ .obj es :: []) := rfl
  have hretyped : Retyped fields j (setType j fields) := retyped_setType (by decide +kernel) j
  obtain ⟨us, v', ws, hlength, hdeclarations, hread, hwritten, hruns⟩ :=
    run_of_retyped hfile (hitems fields) (hitems (setType j fields)) hretyped
  obtain ⟨u', rfl⟩ := List.length_eq_one_iff.1 hlength
  simp only [List.singleton_append, List.cons.injEq] at hdeclarations
  obtain ⟨rfl, rfl, rfl⟩ := hdeclarations
  have hemitted : u.Emitted options := ⟨nofun, _, _, rfl, rfl⟩
  obtain ⟨a, b, -, hb, -, hskipped⟩ := hruns options rfl (by decide) ⟨u, by simp, hemitted⟩
  obtain ⟨-, hfields, -⟩ := hwritten _ herror
  refine ⟨u, _, b, hread, rfl, ?_, hb, (hskipped _).2 ⟨nofun, herror⟩⟩
  have hcanonical : j.canonical = j := by decide +kernel
  rw [hfields "type", if_pos rfl, hcanonical]

end VariableFile

end VarSchema
