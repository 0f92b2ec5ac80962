import Mathlib.Data.List.Sort
import Mathlib.Data.String.Basic
import VarSchema.Proofs.Assembly.Root

/-!
# What a run gives, and why

* `Variable.typeSchema` : the schema of a variable's type, or the error of the type, which is all that can be wrong
  with a variable (`Variable.toNode_eq`);
* `Assembly.FirstRepeated`, `Assembly.FirstFault` : the first variable whose name is taken, and the first that is not
  left out although its type has an error;
* `Assembly.IsRootOf` : the root schema of variables, keyword by keyword; `Assembly.IsRootOf.eq` : there is only one;
* `Assembly.Verdict` : the result that variables and options call for, the causes of failure in their order of
  precedence; `Assembly.run_eq_iff_verdict` : a run gives that result.
-/

namespace VarSchema

/-! ## Types -/

namespace Variable

variable {options : Options} {v : Variable}

/-- The schema of the type, or the error of a type that is malformed or has no schema. -/
def typeSchema (options : Options) (v : Variable) : Except TypeError Node :=
  v.type.constraint.bind fun t => t.translate v.name (v.isNullable options.nullableDefault) options

/-- The type is the only part of a variable that can have an error. -/
theorem toNode_eq (options : Options) (v : Variable) : v.toNode options =
    (v.typeSchema options).map fun base => (v.finish options base, (v.applied base).2) := by
  unfold toNode typeSchema
  cases v.type.constraint with
  | error e => rfl
  | ok t =>
    show ((t.translate v.name (v.isNullable options.nullableDefault) options).bind fun base =>
      .ok (v.finish options base, (v.applied base).2)) = Except.map _ _
    simp only [Except.bind]
    cases t.translate v.name (v.isNullable options.nullableDefault) options <;> rfl

theorem toNode_eq_error_iff {e : TypeError} : v.toNode options = .error e ↔ v.typeSchema options = .error e := by
  rw [toNode_eq, Except.map_eq_error]

theorem toNode_of_typeSchema {base : Node} (h : v.typeSchema options = .ok base) :
    v.toNode options = .ok (v.finish options base, (v.applied base).2) := by
  rw [toNode_eq, h]
  rfl

/-- The error for which the variable stops a run that tolerates none. -/
def fault? (options : Options) (v : Variable) : Option SchemaError :=
  if v.name ∈ options.ignoreVariables then none
  else
    match v.typeSchema options with
    | .ok _ => none
    | .error e => some (.malformedType v.name e)

theorem fault?_eq_some_iff {e : SchemaError} : v.fault? options = some e ↔
    v.name ∉ options.ignoreVariables ∧ ∃ cause, v.typeSchema options = .error cause ∧
      .malformedType v.name cause = e := by
  unfold fault?
  by_cases hignored : v.name ∈ options.ignoreVariables <;> cases v.typeSchema options <;> simp [hignored]

theorem fault?_eq_none_iff : v.fault? options = none ↔
    (v.name ∉ options.ignoreVariables → (v.typeSchema options).isOk = true) := by
  unfold fault?
  by_cases hignored : v.name ∈ options.ignoreVariables <;> cases v.typeSchema options <;>
    simp [hignored, Except.isOk, Except.toBool]

end Variable

namespace Assembly

variable {options : Options} {vs : List Variable} {p : Parts} {name : String}

/-! ## Repeated names -/

/-- The first variable whose name an earlier one has is of this name. -/
def FirstRepeated (vs : List Variable) (name : String) : Prop :=
  ∃ before v after, vs = before ++ v :: after ∧ v.name = name ∧ name ∈ before.map Variable.name ∧
    (before.map Variable.name).Nodup

theorem repeated?_append {seen before after : List String} (h : repeated? seen before = none) :
    repeated? seen (before ++ after) = repeated? (before.reverse ++ seen) after := by
  induction before generalizing seen with
  | nil => rfl
  | cons k before ih =>
    rw [repeated?] at h
    rw [List.cons_append, repeated?, List.reverse_cons, List.append_assoc]
    split at h
    · cases h
    · next hseen => rw [if_neg hseen, ih h, List.singleton_append]

theorem repeated?_of_append {seen before after : List String} (h : repeated? seen before = none)
    (hname : name ∈ before ∨ name ∈ seen) : repeated? seen (before ++ name :: after) = some name := by
  have hmem : name ∈ before.reverse ++ seen := by
    rwa [List.mem_append, List.mem_reverse]
  rw [repeated?_append h, repeated?, if_pos (List.contains_iff_mem.2 hmem)]

/-- A repeated name stands behind names that are not repeated, one of which it is unless it was seen before. -/
theorem exists_append_of_repeated? {seen names : List String} (h : repeated? seen names = some name) :
    ∃ before after, names = before ++ name :: after ∧ repeated? seen before = none ∧
      (name ∈ before ∨ name ∈ seen) := by
  induction names generalizing seen with
  | nil => cases h
  | cons k names ih =>
    rw [repeated?] at h
    split at h
    · next hseen =>
      cases h
      exact ⟨[], names, rfl, rfl, .inr (List.contains_iff_mem.1 hseen)⟩
    · next hseen =>
      obtain ⟨before, after, rfl, hbefore, hname⟩ := ih h
      refine ⟨k :: before, after, rfl, ?_, ?_⟩
      · rw [repeated?, if_neg hseen, hbefore]
      · rcases hname with hname | hname
        · exact .inl (List.mem_cons_of_mem _ hname)
        · rcases List.mem_cons.1 hname with rfl | hname
          · exact .inl (List.mem_cons_self ..)
          · exact .inr hname

theorem repeated?_eq_some_iff_firstRepeated :
    repeated? [] (vs.map Variable.name) = some name ↔ FirstRepeated vs name := by
  constructor
  · intro h
    obtain ⟨before, after, hsplit, hbefore, hname⟩ := exists_append_of_repeated? h
    obtain ⟨us, ws, rfl, rfl, hws⟩ := List.map_eq_append_iff.1 hsplit
    obtain ⟨v, ws, rfl, rfl, rfl⟩ := List.map_eq_cons_iff.1 hws
    exact ⟨us, v, ws, rfl, rfl, hname.resolve_right List.not_mem_nil, repeated?_eq_none.1 hbefore⟩
  · rintro ⟨before, v, after, rfl, rfl, hname, hnodup⟩
    rw [List.map_append, List.map_cons]
    exact repeated?_of_append (repeated?_eq_none.2 hnodup) (.inl hname)

/-! ## Faulty types -/

/-- The first variable that is not left out although its type has an error is of this name and has this error. -/
def FirstFault (options : Options) (vs : List Variable) (name : String) (e : TypeError) : Prop :=
  ∃ before v after, vs = before ++ v :: after ∧ v.name = name ∧
    name ∉ options.ignoreVariables ∧ v.typeSchema options = .error e ∧
    ∀ u ∈ before, u.name ∉ options.ignoreVariables → (u.typeSchema options).isOk = true

theorem findSome?_fault?_eq_some_iff {e : SchemaError} : vs.findSome? (Variable.fault? options) = some e ↔
    ∃ name cause, .malformedType name cause = e ∧ FirstFault options vs name cause := by
  rw [List.findSome?_eq_some_iff]
  simp only [Variable.fault?_eq_some_iff, Variable.fault?_eq_none_iff]
  constructor
  · rintro ⟨before, v, after, rfl, ⟨hkept, cause, hcause, rfl⟩, hbefore⟩
    exact ⟨v.name, cause, rfl, before, v, after, rfl, rfl, hkept, hcause, hbefore⟩
  · rintro ⟨_, cause, rfl, before, v, after, rfl, rfl, hkept, hcause, hbefore⟩
    exact ⟨before, v, after, rfl, ⟨hkept, cause, hcause, rfl⟩, hbefore⟩

/-- What adding variables stops at. -/
theorem Parts.addAll_snd : ∀ (ws : List Variable) (p : Parts), (Parts.addAll options ws p).2 =
    if options.onTypeError = .fail then ws.findSome? (Variable.fault? options) else none
  | [], p => by simp [addAll]
  | w :: ws, p => by
    rw [addAll, List.findSome?_cons]
    by_cases hignored : w.name ∈ options.ignoreVariables
    · have hfault : w.fault? options = none := by rw [Variable.fault?, if_pos hignored]
      simp only [add_of_ignored hignored, hfault]
      exact addAll_snd ws p
    · cases hn : w.typeSchema options with
      | ok base =>
        have hfault : w.fault? options = none := by simp [Variable.fault?, hignored, hn]
        simp only [add_of_ok hignored (Variable.toNode_of_typeSchema hn), hfault]
        exact addAll_snd ws _
      | error e =>
        have hfault : w.fault? options = some (.malformedType w.name e) := by simp [Variable.fault?, hignored, hn]
        rw [add_of_error hignored (Variable.toNode_eq_error_iff.2 hn)]
        cases hpolicy : options.onTypeError with
        | fail => simp [hfault]
        | skip =>
          have hrest := addAll_snd ws { p with diagnostics := p.diagnostics ++ [.variableSkipped w.name e] }
          rw [hpolicy] at hrest
          exact hrest

/-! ## The root of variables -/

/-- The root schema of variables and what is left out of it: the keywords that are generated, of which the properties
are the schemas of the emitted variables and the required names, in order, those of the variables that must be given;
and every other keyword of the options. -/
structure IsRootOf (options : Options) (vs : List Variable) (a : Assembly) : Prop where
  dialect : a.schema.get? "$schema" = some (.str Assembly.dialect)
  type : a.schema.get? "type" = some (.str "object")
  additional : a.schema.get? "additionalProperties" = some (.bool options.allowAdditionalProperties)
  properties : ∃ properties : KeyMap Json, a.schema.get? "properties" = some (.obj properties.entries) ∧
    (∀ k, k ∈ properties.keys ↔ ∃ v ∈ vs, v.name = k ∧ v.Emitted options) ∧
    ∀ k s, properties.get? k = some s ↔ ∃ v ∈ vs, v.name = k ∧ v.Yields options s
  required : ∃ names : List String, a.schema.get? "required" = some (.arr (names.map .str)) ∧
    names.Pairwise (· < ·) ∧ ∀ k, k ∈ names ↔ ∃ v ∈ vs, v.name = k ∧ v.MustBeGiven options
  extra : ∀ k ∉ reserved, a.schema.get? k = options.rootProperties.get? k
  diagnostics : a.diagnostics = vs.flatMap (Variable.diagnostics options)

/-- No name is collected twice, so that they strictly increase once they are sorted. -/
theorem Collected.pairwise_required (hp : Collected options vs p) : p.required.mergeSort.Pairwise (· < ·) := by
  have hsorted : p.required.mergeSort.SortedLE := List.sortedLE_mergeSort
  have hdistinct : p.required.mergeSort.Nodup := (List.mergeSort_perm p.required _).nodup_iff.2 hp.distinct
  exact (hsorted.sortedLT_of_nodup hdistinct).pairwise

/-- The root of what variables contribute is their root. -/
theorem Collected.isRootOf (hp : Collected options vs p) : IsRootOf options vs ⟨root options p, p.diagnostics⟩ where
  dialect := by simp [get?_root]
  type := by simp [get?_root]
  additional := by simp [get?_root]
  properties := by
    refine ⟨p.properties, by simp [get?_root], fun k => ?_, hp.properties⟩
    have hkey : k ∈ p.properties.keys ↔ ∃ s, p.properties.get? k = some s := by
      rw [KeyMap.keys, Entries.mem_keys_iff, Option.isSome_iff_exists, KeyMap.get?]
    rw [hkey]
    simp only [hp.properties, Variable.emitted_iff]
    constructor
    · rintro ⟨s, v, hv, hname, hs⟩
      exact ⟨v, hv, hname, s, hs⟩
    · rintro ⟨v, hv, hname, s, hs⟩
      exact ⟨s, v, hv, hname, hs⟩
  required := by
    refine ⟨p.required.mergeSort, by simp [get?_root], hp.pairwise_required, fun k => ?_⟩
    rw [List.mem_mergeSort, hp.required]
  extra k hk := by
    simp only [reserved, List.mem_cons, List.not_mem_nil, or_false, not_or] at hk
    simp [get?_root, hk]
  diagnostics := hp.diagnostics

variable {ws : List Variable} {a b : Assembly}

/-- But for the properties, roots are the same if the same names must be given. -/
theorem IsRootOf.get?_eq (ha : a.IsRootOf options vs) (hb : b.IsRootOf options ws)
    (hgiven : ∀ k, (∃ v ∈ vs, v.name = k ∧ v.MustBeGiven options) ↔ ∃ w ∈ ws, w.name = k ∧ w.MustBeGiven options)
    {k : String} (hk : k ≠ "properties") : a.schema.get? k = b.schema.get? k := by
  by_cases hreserved : k ∈ reserved
  · simp only [reserved, List.mem_cons, List.not_mem_nil, or_false] at hreserved
    rcases hreserved with rfl | rfl | rfl | rfl | rfl
    · rw [ha.dialect, hb.dialect]
    · rw [ha.type, hb.type]
    · rw [ha.additional, hb.additional]
    · exact absurd rfl hk
    · obtain ⟨ks, hks, hksOrdered, hksMem⟩ := ha.required
      obtain ⟨ls, hls, hlsOrdered, hlsMem⟩ := hb.required
      have heq : ks = ls := hksOrdered.eq_of_mem_iff hlsOrdered fun k => by rw [hksMem, hlsMem, hgiven]
      rw [hks, hls, heq]
  · rw [ha.extra k hreserved, hb.extra k hreserved]

/-- The root schema does not depend on the order of the variables. -/
theorem IsRootOf.schema_eq (ha : a.IsRootOf options vs) (hb : b.IsRootOf options ws) (h : ∀ v, v ∈ vs ↔ v ∈ ws) :
    a.schema = b.schema := by
  have hproperties : a.schema.get? "properties" = b.schema.get? "properties" := by
    obtain ⟨m, hm, -, hmget⟩ := ha.properties
    obtain ⟨n, hn, -, hnget⟩ := hb.properties
    have heq : m = n := KeyMap.ext_get? fun k => Option.ext fun s => by rw [hmget, hnget]; simp only [h]
    rw [hm, hn, heq]
  apply Node.ext_get?
  intro k
  by_cases hk : k = "properties"
  · rw [hk, hproperties]
  · exact ha.get?_eq hb (by simp only [h, implies_true]) hk

/-- Variables have one root. -/
theorem IsRootOf.eq (ha : a.IsRootOf options vs) (hb : b.IsRootOf options vs) : a = b := by
  have hschema := ha.schema_eq hb fun _ => Iff.rfl
  have hdiagnostics := ha.diagnostics.trans hb.diagnostics.symm
  cases a
  cases b
  cases hschema
  cases hdiagnostics
  rfl

theorem isRootOf_of_run (h : run options vs = .ok a) : a.IsRootOf options vs := by
  obtain ⟨p, -, hp, rfl⟩ := run_eq_ok h
  exact hp.isRootOf

/-! ## The result -/

/-- The result that variables and options call for. What can fail is checked in this order. -/
inductive Verdict (options : Options) (vs : List Variable) : Except SchemaError Assembly → Prop where
  /-- A name that is declared twice, be it of variables that are left out or malformed. -/
  | repeated {name : String} (first : FirstRepeated vs name) : Verdict options vs (.error (.duplicateVariable name))
  /-- An error of a type, if the options tolerate none. -/
  | fault {name : String} {e : TypeError} (distinct : (vs.map Variable.name).Nodup)
      (strict : options.onTypeError = .fail) (first : FirstFault options vs name e) :
      Verdict options vs (.error (.malformedType name e))
  /-- No variable is left, and the options want one. -/
  | empty (distinct : (vs.map Variable.name).Nodup)
      (tolerated : ∀ v ∈ vs, Admits options v)
      (none : ∀ v ∈ vs, ¬v.Emitted options) (refused : options.allowEmpty = false) :
      Verdict options vs (.error .noVariables)
  /-- Otherwise there is a schema. -/
  | root {a : Assembly} (distinct : (vs.map Variable.name).Nodup)
      (tolerated : ∀ v ∈ vs, Admits options v)
      (remains : options.allowEmpty = true ∨ ∃ v ∈ vs, v.Emitted options) (isRoot : a.IsRootOf options vs) :
      Verdict options vs (.ok a)

theorem verdict_run (options : Options) (vs : List Variable) : Verdict options vs (run options vs) := by
  cases hrepeated : repeated? [] (vs.map Variable.name) with
  | some name =>
    rw [run_of_repeated? hrepeated]
    exact .repeated (repeated?_eq_some_iff_firstRepeated.1 hrepeated)
  | none =>
    have hnames := repeated?_eq_none.1 hrepeated
    rcases hadd : Parts.addAll options vs default with ⟨p, _ | e⟩
    · have htolerated := Parts.addAll_eq_none_iff.1 (congrArg Prod.snd hadd)
      have hp : Collected options vs p := collected_nil.addAll hnames hadd
      rcases run_of_collected hnames hadd with ⟨hrefused, hnone, hrun⟩ | ⟨hremains, hrun⟩
      · rw [hrun]
        exact .empty hnames htolerated hnone hrefused
      · rw [hrun]
        exact .root hnames htolerated hremains hp.isRootOf
    · have hfault := congrArg Prod.snd hadd
      rw [run_of_fault hnames hfault]
      rw [Parts.addAll_snd] at hfault
      split at hfault
      · next hstrict =>
        obtain ⟨name, cause, rfl, hfirst⟩ := findSome?_fault?_eq_some_iff.1 hfault
        exact .fault hnames hstrict hfirst
      · cases hfault

/-- **A run gives the result that variables and options call for**: an error for the first name that is declared twice;
or else, unless faulty types are skipped, an error for the first variable that is not left out and whose type has
one; or else an error if no variable is left, unless that is allowed; or else the root of the variables. -/
theorem run_eq_iff_verdict (options : Options) (vs : List Variable) (r : Except SchemaError Assembly) :
    run options vs = r ↔ Verdict options vs r := by
  constructor
  · rintro rfl
    exact verdict_run options vs
  intro h
  have hparts (htolerated : ∀ v ∈ vs, Admits options v) : ∃ p, Parts.addAll options vs default = (p, none) :=
    ⟨_, Prod.ext rfl (Parts.addAll_eq_none_iff.2 htolerated)⟩
  cases h with
  | repeated hfirst => exact run_of_repeated? (repeated?_eq_some_iff_firstRepeated.2 hfirst)
  | fault hnames hstrict hfirst =>
    apply run_of_fault hnames
    rw [Parts.addAll_snd, if_pos hstrict]
    exact findSome?_fault?_eq_some_iff.2 ⟨_, _, rfl, hfirst⟩
  | empty hnames htolerated hnone hrefused =>
    obtain ⟨p, hadd⟩ := hparts htolerated
    rcases run_of_collected hnames hadd with ⟨-, -, hrun⟩ | ⟨hremains, -⟩
    · exact hrun
    · exact absurd hremains (not_remains_iff.2 ⟨hrefused, hnone⟩)
  | root hnames htolerated hremains hroot =>
    obtain ⟨p, hadd⟩ := hparts htolerated
    rcases run_of_collected hnames hadd with ⟨hrefused, hnone, -⟩ | ⟨-, hrun⟩
    · exact absurd hremains (not_remains_iff.2 ⟨hrefused, hnone⟩)
    · have hp : Collected options vs p := collected_nil.addAll hnames hadd
      rw [hrun, hp.isRootOf.eq hroot]

end Assembly

end VarSchema
