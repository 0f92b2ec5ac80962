import VarSchema.Assembly
import VarSchema.Proofs.Except
import VarSchema.Proofs.Schema.Keywords

/-!
# What a run over the variables collects

* `Variable.Emitted` : the variables that have a schema in the root; `Variable.toNode_eq_ok` : how that schema
  comes about; `Variable.diagnostics` : what is left out of it;
* `Assembly.Parts.add_cases` : all that adding a variable can do;
* `Assembly.Collected` : the parts hold what the variables so far contribute; `Collected.add` : one step keeps
  this, `Collected.addAll` : and so does a run;
* `Assembly.run_of_repeated?`, `Assembly.run_of_fault`, `Assembly.run_of_addAll` : a run, check by check;
* `Assembly.run_eq_ok` : a root schema is the root of what all variables contribute; `Assembly.run_isOk_iff` : when
  there is one.
-/

namespace VarSchema

theorem DeclaredType.eq_valid_of_constraint {d : DeclaredType} {t : Constraint} (h : d.constraint = .ok t) :
    d = .valid t := by
  cases d with
  | valid t' =>
    cases h
    rfl
  | malformed raw e => cases h

namespace Variable

/-- The type decodes and translates, and the variable is not left out. -/
def Emitted (options : Options) (v : Variable) : Prop :=
  v.name ∉ options.ignoreVariables ∧ ∃ t n, v.type.constraint = .ok t ∧
    t.translate v.name (v.isNullable options.nullableDefault) options = .ok n

/-- The root requires the variable: it has no default, or the options require all. -/
def MustBeGiven (options : Options) (v : Variable) : Prop :=
  v.Emitted options ∧ (options.requireAll = true ∨ v.default = none)

/-- The variable has the schema in the root. -/
def Yields (options : Options) (v : Variable) (s : Json) : Prop :=
  v.name ∉ options.ignoreVariables ∧ ∃ n ds, v.toNode options = .ok (n, ds) ∧ s = n.toJson

/-- The schema of a variable's type after the default and the conditions, and what is left out. -/
def applied (v : Variable) (base : Node) : Node × List Diagnostic :=
  applyAll v.name v.conditions (setIf "default" v.default base)

/-- The schema of a variable, from the schema of its type. -/
def finish (options : Options) (v : Variable) (base : Node) : Node :=
  let described := setIf "description" (v.description.map .str) (v.applied base).1
  if v.isNullable options.nullableDefault then described.strip else described

variable {options : Options} {v : Variable}

theorem toNode_eq_ok {n : Node} {ds : List Diagnostic} : v.toNode options = .ok (n, ds) ↔
    ∃ t base, v.type.constraint = .ok t ∧
      t.translate v.name (v.isNullable options.nullableDefault) options = .ok base ∧
      v.finish options base = n ∧ (v.applied base).2 = ds := by
  constructor
  · intro h
    obtain ⟨t, ht, h⟩ := Except.bind_eq_ok.1 h
    obtain ⟨base, hbase, h⟩ := Except.bind_eq_ok.1 h
    obtain ⟨hn, hds⟩ := Prod.mk.inj (Except.ok.inj h)
    exact ⟨t, base, ht, hbase, hn, hds⟩
  · rintro ⟨t, base, ht, hbase, rfl, rfl⟩
    refine Except.bind_eq_ok.2 ⟨t, ht, Except.bind_eq_ok.2 ⟨base, hbase, rfl⟩⟩

theorem emitted_iff : v.Emitted options ↔ ∃ s, v.Yields options s := by
  constructor
  · rintro ⟨hkept, t, base, ht, hbase⟩
    exact ⟨_, hkept, _, _, toNode_eq_ok.2 ⟨t, base, ht, hbase, rfl, rfl⟩, rfl⟩
  · rintro ⟨s, hkept, n, ds, h, -⟩
    obtain ⟨t, base, ht, hbase, -⟩ := toNode_eq_ok.1 h
    exact ⟨hkept, t, base, ht, hbase⟩

theorem yields_iff_of_toNode {n : Node} {ds : List Diagnostic} (hkept : v.name ∉ options.ignoreVariables)
    (h : v.toNode options = .ok (n, ds)) (s : Json) : v.Yields options s ↔ n.toJson = s := by
  simp [Yields, hkept, h, eq_comm]

/-- What is left out of a variable's schema, or the variable itself. -/
def diagnostics (options : Options) (v : Variable) : List Diagnostic :=
  if v.name ∈ options.ignoreVariables then []
  else
    match v.toNode options with
    | .ok (_, ds) => ds
    | .error e => [.variableSkipped v.name e]

theorem diagnostics_of_toNode_eq_ok {n : Node} {ds : List Diagnostic} (hkept : v.name ∉ options.ignoreVariables)
    (h : v.toNode options = .ok (n, ds)) : v.diagnostics options = ds := by
  rw [diagnostics, if_neg hkept, h]

theorem diagnostics_of_toNode_eq_error {e : TypeError} (hkept : v.name ∉ options.ignoreVariables)
    (h : v.toNode options = .error e) : v.diagnostics options = [.variableSkipped v.name e] := by
  rw [diagnostics, if_neg hkept, h]

end Variable

namespace Assembly

variable {options : Options} {v : Variable}

/-! ## One step -/

namespace Parts

variable {p q : Parts}

theorem add_of_ignored (h : v.name ∈ options.ignoreVariables) (p : Parts) : p.add options v = .ok p := by
  rw [add, if_pos (Options.isIgnored_iff.2 h)]

theorem add_of_ok {n : Node} {ds : List Diagnostic} (hkept : v.name ∉ options.ignoreVariables)
    (h : v.toNode options = .ok (n, ds)) (p : Parts) : p.add options v = .ok ⟨p.properties.insert v.name n.toJson,
      if options.requireAll = true ∨ v.default = none then p.required ++ [v.name] else p.required,
      p.diagnostics ++ ds⟩ := by
  rw [add, Options.isIgnored_eq_false_iff.2 hkept, h]
  simp only [Bool.false_eq_true, if_false, Bool.or_eq_true, Variable.isRequired_iff]

theorem add_of_error {e : TypeError} (hkept : v.name ∉ options.ignoreVariables) (h : v.toNode options = .error e)
    (p : Parts) : p.add options v = match options.onTypeError with
      | .fail => .error (.malformedType v.name e)
      | .skip => .ok { p with diagnostics := p.diagnostics ++ [.variableSkipped v.name e] } := by
  rw [add, Options.isIgnored_eq_false_iff.2 hkept, h]
  rfl

/-- A variable that is left out, one that has a schema, and one that is skipped. -/
theorem add_cases (h : p.add options v = .ok q) :
    (v.name ∈ options.ignoreVariables ∧ q = p) ∨
    (v.name ∉ options.ignoreVariables ∧ ∃ n ds, v.toNode options = .ok (n, ds) ∧
      q = ⟨p.properties.insert v.name n.toJson,
        if options.requireAll = true ∨ v.default = none then p.required ++ [v.name] else p.required,
        p.diagnostics ++ ds⟩) ∨
    (v.name ∉ options.ignoreVariables ∧ options.onTypeError = .skip ∧ ∃ e, v.toNode options = .error e ∧
      q = { p with diagnostics := p.diagnostics ++ [.variableSkipped v.name e] }) := by
  by_cases hignored : v.name ∈ options.ignoreVariables
  · rw [add_of_ignored hignored] at h
    cases h
    exact .inl ⟨hignored, rfl⟩
  · cases hn : v.toNode options with
    | ok r =>
      rw [add_of_ok hignored hn] at h
      cases h
      exact .inr (.inl ⟨hignored, r.1, r.2, rfl, rfl⟩)
    | error e =>
      rw [add_of_error hignored hn] at h
      split at h
      · cases h
      · next hskip =>
        cases h
        exact .inr (.inr ⟨hignored, hskip, e, rfl, rfl⟩)

end Parts

/-- The parts hold the schemas of the emitted variables, the names of those that must be given, each once, and what
was left out. -/
structure Collected (options : Options) (vs : List Variable) (p : Parts) : Prop where
  properties : ∀ k s, p.properties.get? k = some s ↔ ∃ v ∈ vs, v.name = k ∧ v.Yields options s
  required : ∀ k, k ∈ p.required ↔ ∃ v ∈ vs, v.name = k ∧ v.MustBeGiven options
  distinct : p.required.Nodup
  diagnostics : p.diagnostics = vs.flatMap (Variable.diagnostics options)

theorem collected_nil : Collected options [] default where
  properties k s := by simp [default]
  required k := by simp [default]
  distinct := List.nodup_nil
  diagnostics := rfl

variable {vs : List Variable} {p q : Parts}

theorem exists_mem_append_singleton (r : Variable → Prop) :
    (∃ u ∈ vs ++ [v], r u) ↔ (∃ u ∈ vs, r u) ∨ r v := by
  simp only [List.mem_append, List.mem_singleton, or_and_right, exists_or, exists_eq_left]

/-- A variable without a schema only adds to what was left out. -/
theorem Collected.add_none (hp : Collected options vs p) (hnone : ∀ s, ¬v.Yields options s) :
    Collected options (vs ++ [v]) { p with diagnostics := p.diagnostics ++ v.diagnostics options } where
  properties k s := by
    rw [hp.properties, exists_mem_append_singleton, or_iff_left fun hv => hnone s hv.2]
  required k := by
    have hnot : ¬v.MustBeGiven options := by
      intro hmust
      obtain ⟨s, hs⟩ := Variable.emitted_iff.1 hmust.1
      exact hnone s hs
    rw [hp.required, exists_mem_append_singleton, or_iff_left fun hv => hnot hv.2]
  distinct := hp.distinct
  diagnostics := by
    rw [hp.diagnostics, List.flatMap_append, List.flatMap_singleton]

/-- A variable with a schema adds it under its name, and its name if it must be given. -/
theorem Collected.add_some (hp : Collected options vs p) (hname : v.name ∉ vs.map Variable.name)
    (hkept : v.name ∉ options.ignoreVariables) {n : Node} {ds : List Diagnostic}
    (hn : v.toNode options = .ok (n, ds)) :
    Collected options (vs ++ [v]) ⟨p.properties.insert v.name n.toJson,
      if options.requireAll = true ∨ v.default = none then p.required ++ [v.name] else p.required,
      p.diagnostics ++ ds⟩ where
  properties k s := by
    have hfresh : ∀ u ∈ vs, u.name ≠ v.name := fun u hu heq => hname (List.mem_map.2 ⟨u, hu, heq⟩)
    rw [KeyMap.get?_insert, exists_mem_append_singleton, Variable.yields_iff_of_toNode hkept hn]
    by_cases hk : v.name = k
    · rw [if_pos hk, or_iff_right fun ⟨u, hu, heq, _⟩ => hfresh u hu (heq.trans hk.symm)]
      simp [hk]
    · rw [if_neg hk, hp.properties, or_iff_left fun hv => hk hv.1]
  required k := by
    have hmust : v.MustBeGiven options ↔ options.requireAll = true ∨ v.default = none :=
      and_iff_right (Variable.emitted_iff.2 ⟨_, hkept, n, ds, hn, rfl⟩)
    rw [exists_mem_append_singleton, ← hp.required, hmust]
    split
    · next hgiven => rw [and_iff_left hgiven, List.mem_append, List.mem_singleton, eq_comm]
    · next hgiven => rw [or_iff_left fun h => hgiven h.2]
  distinct := by
    have hfresh : v.name ∉ p.required := by
      intro hmem
      obtain ⟨u, hu, heq, -⟩ := (hp.required v.name).1 hmem
      exact hname (heq ▸ List.mem_map_of_mem hu)
    split
    · exact List.nodup_append.2 ⟨hp.distinct, List.pairwise_singleton .., fun k hk l hl heq =>
        hfresh (List.mem_singleton.1 hl ▸ heq ▸ hk)⟩
    · exact hp.distinct
  diagnostics := by
    rw [hp.diagnostics, List.flatMap_append, List.flatMap_singleton, Variable.diagnostics_of_toNode_eq_ok hkept hn]

/-- One variable adds what it contributes. -/
theorem Collected.add (hp : Collected options vs p) (hname : v.name ∉ vs.map Variable.name)
    (h : p.add options v = .ok q) : Collected options (vs ++ [v]) q := by
  obtain ⟨hignored, rfl⟩ | ⟨hkept, n, ds, hn, rfl⟩ | ⟨hkept, -, e, he, rfl⟩ := Parts.add_cases h
  · have hadd := hp.add_none fun s (hs : v.Yields options s) => hs.1 hignored
    rwa [Variable.diagnostics, if_pos hignored, List.append_nil] at hadd
  · exact hp.add_some hname hkept hn
  · have hnone : ∀ s, ¬v.Yields options s := by
      rintro s ⟨-, n, ds, hn, -⟩
      rw [he] at hn
      cases hn
    have hadd := hp.add_none hnone
    rwa [Variable.diagnostics_of_toNode_eq_error hkept he] at hadd

/-- And so does a run over variables of other names. -/
theorem Collected.addAll : ∀ {ws vs : List Variable} {p q : Parts}, Collected options vs p →
    ((vs ++ ws).map Variable.name).Nodup → Parts.addAll options ws p = (q, none) →
    Collected options (vs ++ ws) q
  | [], vs, p, q, hp, _, h => by
    cases h
    rwa [List.append_nil]
  | w :: ws, vs, p, q, hp, hnames, h => by
    rw [Parts.addAll] at h
    split at h
    · next r hr =>
      have hname : w.name ∉ vs.map Variable.name := by
        rw [List.map_append, List.nodup_append] at hnames
        exact fun hm => hnames.2.2 _ hm _ (List.mem_cons_self ..) rfl
      have happend : vs ++ w :: ws = (vs ++ [w]) ++ ws := by simp
      rw [happend] at hnames ⊢
      exact Collected.addAll (hp.add hname hr) hnames h
    · cases h

/-! ## A whole run -/

theorem repeated?_eq_none_iff : ∀ {names seen : List String},
    repeated? seen names = none ↔ names.Nodup ∧ ∀ k ∈ names, k ∉ seen
  | [], _ => by simp [repeated?]
  | k :: rest, seen => by
    rw [repeated?]
    split
    · next hseen =>
      refine iff_of_false nofun fun h => ?_
      exact h.2 k (List.mem_cons_self ..) (List.contains_iff_mem.1 hseen)
    · next hseen =>
      rw [repeated?_eq_none_iff, List.nodup_cons]
      grind

theorem repeated?_eq_none {names : List String} : repeated? [] names = none ↔ names.Nodup := by
  simp [repeated?_eq_none_iff]

theorem run_of_repeated? {name : String} (h : repeated? [] (vs.map Variable.name) = some name) :
    run options vs = .error (.duplicateVariable name) := by
  simp only [run, collect, h]

theorem run_of_fault {e : SchemaError} (hnames : (vs.map Variable.name).Nodup)
    (h : (Parts.addAll options vs default).2 = some e) : run options vs = .error e := by
  rcases hadd : Parts.addAll options vs default with ⟨p, fault⟩
  rw [hadd] at h
  cases h
  simp only [run, collect, repeated?_eq_none.2 hnames, hadd]

theorem run_of_addAll (hnames : (vs.map Variable.name).Nodup) (h : Parts.addAll options vs default = (p, none)) :
    run options vs = if p.properties.entries.isEmpty && !options.allowEmpty then .error .noVariables
      else .ok ⟨root options p, p.diagnostics⟩ := by
  simp only [run, collect, repeated?_eq_none.2 hnames, h]
  cases p.properties.entries.isEmpty && !options.allowEmpty <;> rfl

/-- A root schema is the root of what all variables contribute. -/
theorem run_eq_ok {a : Assembly} (h : run options vs = .ok a) :
    ∃ p, (vs.map Variable.name).Nodup ∧ Collected options vs p ∧ a = ⟨root options p, p.diagnostics⟩ := by
  cases hrepeated : repeated? [] (vs.map Variable.name) with
  | some name =>
    rw [run_of_repeated? hrepeated] at h
    cases h
  | none =>
    have hnames := repeated?_eq_none.1 hrepeated
    rcases hadd : Parts.addAll options vs default with ⟨p, _ | e⟩
    · rw [run_of_addAll hnames hadd] at h
      split at h
      · cases h
      · cases h
        exact ⟨p, hnames, collected_nil.addAll hnames hadd, rfl⟩
    · rw [run_of_fault hnames (congrArg Prod.snd hadd)] at h
      cases h

/-! ## Success -/

/-- The variable stops no run: it is left out, it has a schema, or it may be skipped. -/
def Admits (options : Options) (v : Variable) : Prop :=
  options.onTypeError = .fail → v.name ∉ options.ignoreVariables → (v.toNode options).isOk = true

theorem Parts.add_isOk_iff (p : Parts) : (p.add options v).isOk = true ↔ Admits options v := by
  unfold Admits
  by_cases hignored : v.name ∈ options.ignoreVariables
  · simp [Parts.add_of_ignored hignored, hignored, Except.isOk, Except.toBool]
  · cases hn : v.toNode options with
    | ok r => simp [Parts.add_of_ok hignored hn, Except.isOk, Except.toBool]
    | error e =>
      rw [Parts.add_of_error hignored hn]
      cases hpolicy : options.onTypeError <;> simp [hignored, Except.isOk, Except.toBool]

theorem Parts.addAll_eq_none_iff : ∀ {ws : List Variable} {p : Parts},
    (Parts.addAll options ws p).2 = none ↔ ∀ w ∈ ws, Admits options w
  | [], _ => by simp [addAll]
  | w :: ws, p => by
    rw [List.forall_mem_cons, ← Parts.add_isOk_iff p, addAll]
    cases h : p.add options w with
    | ok q => simp [Parts.addAll_eq_none_iff, Except.isOk, Except.toBool]
    | error e => simp [Except.isOk, Except.toBool]

/-- The parts have properties if and only if some variable is emitted. -/
theorem Collected.isEmpty_eq_false_iff (hp : Collected options vs p) :
    p.properties.entries.isEmpty = false ↔ ∃ v ∈ vs, v.Emitted options := by
  constructor
  · intro h
    cases hentries : p.properties.entries with
    | nil =>
      rw [hentries] at h
      cases h
    | cons e es =>
      have hget : p.properties.get? e.1 = some e.2 := by
        rw [KeyMap.get?, hentries, Entries.get?_cons, if_pos rfl]
      obtain ⟨v, hv, -, hs⟩ := (hp.properties e.1 e.2).1 hget
      exact ⟨v, hv, Variable.emitted_iff.2 ⟨e.2, hs⟩⟩
  · rintro ⟨v, hv, hemitted⟩
    obtain ⟨s, hs⟩ := Variable.emitted_iff.1 hemitted
    have hget := (hp.properties v.name s).2 ⟨v, hv, rfl, hs⟩
    cases hentries : p.properties.entries with
    | nil =>
      rw [KeyMap.get?, hentries] at hget
      cases hget
    | cons e es => rfl

theorem not_remains_iff : ¬(options.allowEmpty = true ∨ ∃ v ∈ vs, v.Emitted options) ↔
    options.allowEmpty = false ∧ ∀ v ∈ vs, ¬v.Emitted options := by
  rw [not_or, Bool.not_eq_true]
  simp only [not_exists, not_and]

/-- The result of variables that can be added, by whether one of them has a schema. -/
theorem run_of_collected (hnames : (vs.map Variable.name).Nodup) (hadd : Parts.addAll options vs default = (p, none)) :
    (options.allowEmpty = false ∧ (∀ v ∈ vs, ¬v.Emitted options) ∧ run options vs = .error .noVariables) ∨
    ((options.allowEmpty = true ∨ ∃ v ∈ vs, v.Emitted options) ∧
      run options vs = .ok ⟨root options p, p.diagnostics⟩) := by
  have hp : Collected options vs p := collected_nil.addAll hnames hadd
  rw [run_of_addAll hnames hadd]
  cases hempty : p.properties.entries.isEmpty with
  | false =>
    have hsome := hp.isEmpty_eq_false_iff.1 hempty
    exact .inr ⟨.inr hsome, rfl⟩
  | true =>
    have hnone : ∀ v ∈ vs, ¬v.Emitted options := by
      intro v hv hemitted
      rw [hp.isEmpty_eq_false_iff.2 ⟨v, hv, hemitted⟩] at hempty
      cases hempty
    cases hallowed : options.allowEmpty with
    | false => exact .inl ⟨rfl, hnone, rfl⟩
    | true => exact .inr ⟨.inl rfl, rfl⟩

/-- A run succeeds if and only if names are distinct, no variable stops it, and one is emitted unless none need be. -/
theorem run_isOk_iff : (run options vs).isOk = true ↔ (vs.map Variable.name).Nodup ∧ (∀ v ∈ vs, Admits options v) ∧
    (options.allowEmpty = true ∨ ∃ v ∈ vs, v.Emitted options) := by
  cases hrepeated : repeated? [] (vs.map Variable.name) with
  | some name =>
    rw [run_of_repeated? hrepeated]
    refine iff_of_false nofun fun h => ?_
    rw [repeated?_eq_none.2 h.1] at hrepeated
    cases hrepeated
  | none =>
    have hnames := repeated?_eq_none.1 hrepeated
    rw [and_iff_right hnames, ← Parts.addAll_eq_none_iff (p := default)]
    rcases hadd : Parts.addAll options vs default with ⟨p, _ | e⟩
    · rcases run_of_collected hnames hadd with ⟨hrefused, hnone, hrun⟩ | ⟨hremains, hrun⟩
      · rw [hrun]
        exact iff_of_false nofun fun h => not_remains_iff.2 ⟨hrefused, hnone⟩ h.2
      · rw [hrun]
        exact iff_of_true rfl ⟨rfl, hremains⟩
    · rw [run_of_fault hnames (congrArg Prod.snd hadd)]
      exact iff_of_false nofun fun h => nomatch h.1

end Assembly

end VarSchema
