import VarSchema.Proofs.Assembly.Parts
import VarSchema.Proofs.Schema.Record

/-!
# What the root schema accepts

* `Assembly.property?` : the schema of a variable in a root; `Assembly.property?_run`, `Assembly.run_singleton` :
  it is the one that the variable yields, also when it is assembled alone;
* `Assembly.get?_root` : the keywords of a root;
* `Assembly.run_accepts_iff` : the objects that a root accepts, in terms of the variables alone.
-/

namespace VarSchema

namespace Assembly

/-- The schema of a variable in the root. -/
def property? (a : Assembly) (name : String) : Option Json :=
  (a.schema.get? "properties").bind (Json.field? name)

variable {options : Options}

/-! ## Keywords of the root -/

/-- Of ordered entries that are set one after the other, each stays. -/
theorem get?_setAll {es : Entries Json} (h : Entries.Ordered es) (n : Node) (k : String) :
    (es.foldl (fun n e => n.set e.1 e.2) n).get? k = (Entries.get? k es).or (n.get? k) := by
  induction es generalizing n with
  | nil => rfl
  | cons e es ih =>
    obtain ⟨hlt, hes⟩ := List.pairwise_cons.1 h
    rw [List.foldl_cons, ih hes, Entries.get?_cons, Node.get?_set]
    by_cases hk : e.1 = k
    · -- the later entries have larger keys
      have hnone : Entries.get? k es = none :=
        Entries.get?_eq_none fun d hd hdk => String.ne_of_lt (hlt d hd) (hk.trans hdk.symm)
      rw [if_pos hk, if_pos hk, hnone]
      rfl
    · rw [if_neg hk, if_neg hk]

theorem ordered_extraKeywords (options : Options) : Entries.Ordered (extraKeywords options) :=
  options.rootProperties.ordered.filter _

theorem get?_extraKeywords (options : Options) (k : String) : Entries.get? k (extraKeywords options) =
    if k ∈ reserved then none else options.rootProperties.get? k := by
  rw [extraKeywords, KeyMap.get?]
  induction options.rootProperties.entries with
  | nil => simp
  | cons e es ih =>
    rw [List.filter_cons, Entries.get?_cons]
    by_cases he : e.1 = k
    · subst he
      by_cases hk : e.1 ∈ reserved
      · rw [if_neg (by simp [hk]), ih, if_pos hk, if_pos hk]
      · rw [if_pos (by simp [hk]), Entries.get?_cons, if_neg hk, if_pos rfl, if_pos rfl]
    · rw [if_neg he]
      split
      · rw [Entries.get?_cons, if_neg he, ih]
      · exact ih

/-- The keywords of a root: those that are generated, and the options' own. -/
theorem get?_root (p : Parts) (k : String) : (root options p).get? k =
    if k = "required" then some (.arr (p.required.mergeSort.map .str))
    else if k = "properties" then some (.obj p.properties.entries)
    else if k = "additionalProperties" then some (.bool options.allowAdditionalProperties)
    else if k = "type" then some (.str "object")
    else if k = "$schema" then some (.str dialect)
    else options.rootProperties.get? k := by
  simp only [root, Node.get?_set, get?_setAll (ordered_extraKeywords options), get?_extraKeywords, Node.get?_empty,
    eq_comm (b := k)]
  by_cases hk : k ∈ reserved
  · simp only [reserved, List.mem_cons, List.not_mem_nil, or_false] at hk
    rcases hk with rfl | rfl | rfl | rfl | rfl <;> simp [reserved]
  · have hnot := hk
    simp only [reserved, List.mem_cons, List.not_mem_nil, or_false, not_or] at hnot
    simp [hk, hnot]

theorem isRecord_root (h : ∀ k ∈ options.rootProperties.keys, k ∉ Schema.assertingKeywords) (p : Parts) :
    (root options p).IsRecord p.required.mergeSort p.properties.entries options.allowAdditionalProperties where
  required := by simp [get?_root]
  properties := by simp [get?_root]
  additional := by simp [get?_root]
  type := by simp [get?_root]
  others := by
    intro k hasserting hk
    simp only [List.mem_cons, List.not_mem_nil, or_false, not_or] at hk
    obtain ⟨htype, hrequired, hproperties, hadditional⟩ := hk
    have hschema : k ≠ "$schema" := by
      rintro rfl
      revert hasserting
      decide
    have hnone : options.rootProperties.get? k = none := by
      rw [KeyMap.get?, ← Option.not_isSome_iff_eq_none, ← Entries.mem_keys_iff]
      exact fun hmem => h k hmem hasserting
    rw [get?_root, if_neg hrequired, if_neg hproperties, if_neg hadditional, if_neg htype, if_neg hschema, hnone]

/-! ## Properties -/

theorem property?_root (p : Parts) (ds : List Diagnostic) (name : String) :
    property? ⟨root options p, ds⟩ name = p.properties.get? name := by
  have hproperties : (root options p).get? "properties" = some (.obj p.properties.entries) := by simp [get?_root]
  rw [property?, hproperties]
  rfl

/-- A root holds the schema that the variable of the name yields. -/
theorem property?_run {vs : List Variable} {a : Assembly} (h : run options vs = .ok a) (name : String) (s : Json) :
    a.property? name = some s ↔ ∃ v ∈ vs, v.name = name ∧ v.Yields options s := by
  obtain ⟨p, -, hp, rfl⟩ := run_eq_ok h
  rw [property?_root, hp.properties]

/-- A variable that yields a schema does so when it is assembled alone. -/
theorem run_singleton {v : Variable} {s : Json} (h : v.Yields options s) :
    ∃ b, run options [v] = .ok b ∧ b.property? v.name = some s := by
  obtain ⟨hkept, n, ds, hn, rfl⟩ := h
  have hadd : ∃ q, Parts.add options default v = .ok q ∧ q.properties = KeyMap.empty.insert v.name n.toJson :=
    ⟨_, Parts.add_of_ok hkept hn default, rfl⟩
  obtain ⟨q, hq, hproperties⟩ := hadd
  have hcollect : collect options [v] = (q, none) := by
    simp only [collect, List.map_cons, List.map_nil, repeated?, Parts.addAll, hq, hproperties]
    rfl
  refine ⟨⟨root options q, q.diagnostics⟩, by rw [run, hcollect], ?_⟩
  rw [property?_root, hproperties, KeyMap.get?_insert, if_pos rfl]

/-! ## Acceptance -/

/-- **A root accepts the objects that have the variables that must be given, whose value of each emitted variable
is accepted by the schema that the variable has when it is assembled alone, and that have no other keys unless
these are allowed.** -/
theorem run_accepts_iff {vs : List Variable} {a : Assembly} (h : run options vs = .ok a)
    (hroot : ∀ k ∈ options.rootProperties.keys, k ∉ Schema.assertingKeywords) (input : Json) :
    Schema.accepts a.schema.toJson input = true ↔ ∃ fields, input = .obj fields ∧
      (∀ v ∈ vs, v.MustBeGiven options → v.name ∈ Entries.keys fields) ∧
      (∀ v ∈ vs, v.Emitted options → ∀ x, Entries.get? v.name fields = some x →
        ∃ b s, run options [v] = .ok b ∧ b.property? v.name = some s ∧ Schema.accepts s x = true) ∧
      (options.allowAdditionalProperties = false → ∀ k ∈ Entries.keys fields,
        ∃ v ∈ vs, v.name = k ∧ v.Emitted options) := by
  obtain ⟨p, -, hp, rfl⟩ := run_eq_ok h
  rw [(isRecord_root hroot p).accepts_iff]
  refine exists_congr fun fields => and_congr_right fun _ => and_congr ?_ (and_congr ?_ ?_)
  · simp only [List.mem_mergeSort, hp.required]
    exact ⟨fun hall v hv hmust => hall v.name ⟨v, hv, rfl, hmust⟩,
      fun hall k ⟨v, hv, heq, hmust⟩ => heq ▸ hall v hv hmust⟩
  · rw [Schema.acceptsFields_iff]
    constructor
    · intro hall v hv hemitted x hx
      obtain ⟨s, hs⟩ := Variable.emitted_iff.1 hemitted
      obtain ⟨b, hb, hproperty⟩ := run_singleton hs
      have hmem := (hp.properties v.name s).2 ⟨v, hv, rfl, hs⟩
      exact ⟨b, s, hb, hproperty, hall v.name s (p.properties.ordered.get?_eq_some_iff.1 hmem) x hx⟩
    · intro hall k s hm x hx
      obtain ⟨v, hv, rfl, hs⟩ := (hp.properties k s).1 (p.properties.ordered.get?_eq_some_iff.2 hm)
      obtain ⟨b, t, hb, ht, haccepts⟩ := hall v hv (Variable.emitted_iff.2 ⟨s, hs⟩) x hx
      obtain ⟨b', hb', hs'⟩ := run_singleton hs
      rw [hb] at hb'
      cases hb'
      rw [ht] at hs'
      cases hs'
      exact haccepts
  · refine forall_congr' fun _ => forall_congr' fun k => imp_congr_right fun _ => ?_
    rw [Entries.mem_keys_iff, Option.isSome_iff_exists]
    have hproperties := hp.properties k
    rw [KeyMap.get?] at hproperties
    simp only [hproperties, Variable.emitted_iff]
    constructor
    · rintro ⟨s, v, hv, heq, hs⟩
      exact ⟨v, hv, heq, s, hs⟩
    · rintro ⟨v, hv, heq, s, hs⟩
      exact ⟨s, v, hv, heq, hs⟩

/-- A variable with the name of a keyword must be given, one with a default need not, and one that is left out may not,
if there may be no other keys. -/
theorem run_accepts_iff_missing :
    let options : Options := { Options.standard with
      allowAdditionalProperties := false
      ignoreVariables := ["zone"]
      rootProperties := KeyMap.ofList [("title", .str "Inputs")] }
    let name : Variable := ⟨"type", .valid (.primitive .string), none, none, none, []⟩
    let port : Variable := ⟨"port", .valid (.primitive .number), none, some (.int 80), none, []⟩
    let zone : Variable := ⟨"zone", .valid (.primitive .bool), none, none, none, []⟩
    (∀ k ∈ options.rootProperties.keys, k ∉ Schema.assertingKeywords) ∧ ∃ a, run options [name, port, zone] = .ok a ∧
      Schema.accepts a.schema.toJson (.obj [("type", .str "t")]) = true ∧
      Schema.accepts a.schema.toJson (.obj [("port", .int 443)]) = false ∧
      Schema.accepts a.schema.toJson (.obj [("port", .str "https"), ("type", .str "t")]) = false ∧
      Schema.accepts a.schema.toJson (.obj [("type", .str "t"), ("zone", .bool true)]) = false := by
  intro options name port zone
  have hroot : ∀ k ∈ options.rootProperties.keys, k ∉ Schema.assertingKeywords := by decide
  have hname : name.Emitted options := ⟨by decide, _, _, rfl, rfl⟩
  have hport : port.Emitted options := ⟨by decide, _, _, rfl, rfl⟩
  have hzone : ¬zone.Emitted options := fun h => h.1 (by decide)
  obtain ⟨a, ha⟩ := Except.isOk_iff.1 (show (run options [name, port, zone]).isOk = true by decide)
  have haccepts (input : Json) := run_accepts_iff ha hroot input
  refine ⟨hroot, a, ha, (haccepts _).2 ⟨_, rfl, ?_, ?_, ?_⟩, ?_, ?_, ?_⟩
  · intro v hv hmust
    simp only [List.mem_cons, List.not_mem_nil, or_false] at hv
    rcases hv with rfl | rfl | rfl
    · decide
    · exact absurd hmust.2 (by decide)
    · exact absurd hmust.1 hzone
  · intro v hv hemitted x hx
    simp only [List.mem_cons, List.not_mem_nil, or_false] at hv
    rcases hv with rfl | rfl | rfl
    · cases hx
      exact ⟨_, _, rfl, rfl, by decide⟩
    · cases hx
    · exact absurd hemitted hzone
  · intro _ k hk
    cases List.mem_singleton.1 hk
    exact ⟨name, List.mem_cons_self .., rfl, hname⟩
  all_goals
    rw [← Bool.not_eq_true, haccepts]
    rintro ⟨fields, heq, hgiven, hvalues, hclosed⟩
    cases heq
  · exact absurd (hgiven name (List.mem_cons_self ..) ⟨hname, .inr rfl⟩) (by decide)
  · obtain ⟨b, s, hb, hs, hx⟩ := hvalues port (by simp) hport _ rfl
    cases hb
    cases hs
    revert hx
    decide
  · obtain ⟨v, hv, hkey, hemitted⟩ := hclosed rfl "zone" (by decide)
    simp only [List.mem_cons, List.not_mem_nil, or_false] at hv
    rcases hv with rfl | rfl | rfl
    · exact absurd hkey (by decide)
    · exact absurd hkey (by decide)
    · exact hzone hemitted

end Assembly

end VarSchema
