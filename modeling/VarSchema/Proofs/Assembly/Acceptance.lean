import VarSchema.Proofs.Assembly.Enforcement

/-!
# What the schema of a variable accepts

The keywords of a schema fall into those that conditions leave alone, which come from the type, and the others.

* `Node.AcceptsShape` : a value meets the former; `Node.accepts_iff_acceptsShape` : a node accepts what meets both;
* `Variable.typeNode` : the schema of a variable's type by itself; `Variable.accepts_finish_iff`,
  `Variable.accepts_typeNode_iff` : after the conditions a schema has the same shape, and the conditions' keywords;
* `Variable.accepts_finish_of_accepts` : what the type and every recognized condition accept is accepted;
* `Variable.baseNode`, `Variable.accepts_typeNode_baseNode` : the values that the type's part accepts;
* `Variable.yields_iff`, `Assembly.property?_of_mem` : the schema of a variable in terms of these parts;
  `Variable.emitted_iff_wellFormed` : which variables have one.
-/

namespace VarSchema

/-! ## Shape and conditions -/

namespace Node

/-- The value meets what the node has at the keywords that conditions leave alone. -/
def AcceptsShape (n : Node) (x : Json) : Prop :=
  ∀ k ∈ Condition.untouched, ∀ w, n.get? k = some w → Schema.asserts n.entries k w x = true

theorem accepts_iff_acceptsShape (n : Node) (x : Json) :
    Schema.accepts n.toJson x = true ↔ n.AcceptsShape x ∧ ∀ k ∉ Condition.untouched, n.HoldsAt k x := by
  have hholds {k : String} (hk : k ∉ Condition.untouched) (w : Json) :
      Schema.asserts n.entries k w x = Assertion.holds k w x :=
    Schema.asserts_eq_holds (fun hmem => hk (Condition.mem_untouched_of_schema k hmem)) _ w x
  rw [Schema.accepts_toJson_iff]
  constructor
  · intro hall
    refine ⟨fun k _ w hw => hall k w hw, fun k hk w hw => ?_⟩
    rw [← hholds hk]
    exact hall k w hw
  · rintro ⟨hshape, hrest⟩ k w hw
    by_cases hk : k ∈ Condition.untouched
    · exact hshape k hk w hw
    · rw [hholds hk]
      exact hrest k hk w hw

/-- The shape depends on the asserting keywords alone. -/
theorem AcceptsShape.congr {n m : Node}
    (h : ∀ k ∈ Condition.untouched, k ∈ Schema.assertingKeywords → n.get? k = m.get? k) (x : Json) :
    n.AcceptsShape x ↔ m.AcceptsShape x := by
  have hproperties : Entries.get? "properties" n.entries = Entries.get? "properties" m.entries :=
    h "properties" (by decide) (by decide)
  refine forall_congr' fun k => imp_congr_right fun hk => ?_
  by_cases hasserts : k ∈ Schema.assertingKeywords
  · simp only [h k hk hasserts, Schema.asserts_congr hproperties]
  · simp only [Schema.asserts_of_not_mem hasserts, implies_true]

theorem isWrapped_congr {n m : Node} (h : n.get? "anyOf" = m.get? "anyOf") : n.isWrapped = m.isWrapped := by
  rw [isWrapped, isWrapped, h]

end Node

namespace Variable

variable {options : Options} {v : Variable} {base : Node}

/-! ## Type and conditions of a variable -/

/-- The schema of a variable's type by itself, a wrapper without the inner type. -/
def typeNode (options : Options) (v : Variable) (base : Node) : Node :=
  if v.isNullable options.nullableDefault then base.strip else base

theorem get?_finish_of_untouched {k : String} (hk : k ∈ Condition.untouched) (hdefault : k ≠ "default")
    (hdescription : k ≠ "description") : (v.finish options base).get? k = (v.typeNode options base).get? k := by
  have hdescribed {l : String} (hl : l ∈ Condition.untouched) (hdefault : l ≠ "default")
      (hdescription : l ≠ "description") :
      (setIf "description" (v.description.map .str) (v.applied base).1).get? l = base.get? l := by
    rw [get?_setIf (Ne.symm hdescription), get?_applied (Condition.not_bound_of_mem_untouched l hl)
      (fun c _ => Condition.sets_of_mem_untouched hl c) hdefault]
  have hwrapped := Node.isWrapped_congr (hdescribed (l := "anyOf") (by decide) (by decide) (by decide))
  unfold finish typeNode
  dsimp only
  split
  · rw [Node.get?_strip, Node.get?_strip, hwrapped, hdescribed hk hdefault hdescription]
  · exact hdescribed hk hdefault hdescription

/-- A schema has the shape of the type, and the keywords that the conditions leave. -/
theorem accepts_finish_iff (x : Json) : Schema.accepts (v.finish options base).toJson x = true ↔
    (v.typeNode options base).AcceptsShape x ∧ ∀ k ∉ Condition.untouched, (v.applied base).1.HoldsAt k x := by
  have hshape : (v.finish options base).AcceptsShape x ↔ (v.typeNode options base).AcceptsShape x := by
    refine Node.AcceptsShape.congr (fun k hk hasserts => get?_finish_of_untouched hk ?_ ?_) x
    · rintro rfl
      revert hasserts
      decide
    · rintro rfl
      revert hasserts
      decide
  rw [Node.accepts_iff_acceptsShape, hshape]
  refine and_congr_right fun _ => forall_congr' fun k => imp_congr_right fun hk => Node.HoldsAt.congr ?_
  exact get?_finish (Condition.ne_of_not_mem_untouched hk (by decide))
    (Condition.ne_of_not_mem_untouched hk (by decide))

theorem get?_typeNode {k : String} (hk : k ≠ "type") : (v.typeNode options base).get? k = base.get? k := by
  unfold typeNode
  split
  · rw [Node.get?_strip, if_neg fun h => hk h.2]
  · rfl

/-- The type's part has the same shape, and the keywords before the conditions. -/
theorem accepts_typeNode_iff (x : Json) : Schema.accepts (v.typeNode options base).toJson x = true ↔
    (v.typeNode options base).AcceptsShape x ∧ ∀ k ∉ Condition.untouched, base.HoldsAt k x := by
  rw [Node.accepts_iff_acceptsShape]
  refine and_congr_right fun _ => forall_congr' fun k => imp_congr_right fun hk => Node.HoldsAt.congr ?_
  exact get?_typeNode (Condition.ne_of_not_mem_untouched hk (by decide))

/-- What the type and every recognized condition accept is accepted. -/
theorem accepts_finish_of_accepts {x : Json} (htype : Schema.accepts (v.typeNode options base).toJson x = true)
    (hconditions : ∀ c ∈ v.conditions, ∀ d, c.toDelta v.name base = .ok d → Schema.accepts d.toJson x = true) :
    Schema.accepts (v.finish options base).toJson x = true := by
  obtain ⟨hshape, hbase⟩ := (accepts_typeNode_iff x).1 htype
  refine (accepts_finish_iff x).2 ⟨hshape, fun k hk w hw => ?_⟩
  rcases exists_source_of_applyAll hw with hstart | ⟨c, hc, d, hd, hdw⟩
  · rw [get?_setIf (Condition.ne_of_not_mem_untouched hk (by decide)).symm] at hstart
    exact hbase k hk w hstart
  · rw [Condition.toDelta_congr (typeName?_setIf_default v.default base)] at hd
    exact ((Node.accepts_iff_acceptsShape d x).1 (hconditions c hc d hd)).2 k hk w hdw

/-! ## Types -/

variable {t : Constraint} {n : Node}

/-- At the keywords that conditions can set, a type has only counts. -/
theorem get?_eq_none_of_toNode (hn : t.toNode options .top = .ok n) {k : String} (hk : k ∉ Condition.untouched)
    (hcount : k ∉ Side.countKeywords) : n.get? k = none := by
  have hcounts : ∀ l ∈ Constraint.shapeKeywords, l ∉ Condition.untouched → l ∈ Side.countKeywords := by decide
  exact (Constraint.isBase_of_toNode hn).known k (Condition.ne_of_not_mem_untouched hk (by decide))
    fun hshape => hcount (hcounts k hshape hk)

/-- The schema of a type, wrapped if the variable is nullable. -/
def baseNode (options : Options) (v : Variable) (n : Node) : Node :=
  if v.isNullable options.nullableDefault then n.wrap v.name else n

/-- The schema of any needs no wrapper. -/
theorem baseNode_cases (options : Options) (v : Variable) (n : Node) :
    v.baseNode options n = n ∨ n.admitsNull = false ∧ v.baseNode options n = n.wrap v.name := by
  unfold baseNode
  split
  · cases hadmits : n.admitsNull with
    | true => exact .inl (Node.wrap_of_admitsNull hadmits v.name)
    | false => exact .inr ⟨rfl, rfl⟩
  · exact .inl rfl

theorem typeName?_baseNode (hn : t.toNode options .top = .ok n) :
    (v.baseNode options n).typeName? = t.schemaType? := by
  have hbase := Constraint.isBase_of_toNode hn
  rcases baseNode_cases options v n with hself | ⟨hadmits, hwrap⟩
  · rw [hself, hbase.typeName?]
  · rw [hwrap, Node.typeName?_wrap hadmits, hbase.typeName?]

/-- Keywords that neither the schema of a type nor a wrapper has. -/
theorem get?_baseNode (hn : t.toNode options .top = .ok n) {k : String} (hk : k ∉ ["type", "anyOf", "title"])
    (hshape : k ∉ Constraint.shapeKeywords) : (v.baseNode options n).get? k = none := by
  simp only [List.mem_cons, List.not_mem_nil, or_false, not_or] at hk
  obtain ⟨htype, hbranches, htitle⟩ := hk
  have hnone := (Constraint.isBase_of_toNode hn).known k htype hshape
  rcases baseNode_cases options v n with hself | ⟨hadmits, hwrap⟩
  · rw [hself, hnone]
  · rw [hwrap, Node.get?_wrap hadmits, if_neg htype, if_neg hbranches, if_neg htitle]

/-- The type's part accepts what conforms to the type, and null if the variable is nullable. -/
theorem accepts_typeNode_baseNode (hn : t.toNode options .top = .ok n) (x : Json) :
    Schema.accepts (v.typeNode options (v.baseNode options n)).toJson x = true ↔
      (v.isNullable options.nullableDefault = true ∧ x = .null) ∨ t.conforms options x = true := by
  rw [← Constraint.represents_of_toNode hn x, typeNode, baseNode]
  cases v.isNullable options.nullableDefault with
  | false => simp
  | true => simp only [if_true, true_and, Constraint.accepts_strip_wrap hn]

/-- A value that conforms to the type is of the type by which conditions are matched. -/
theorem hasType_of_conforms (hn : t.toNode options .top = .ok n) {x : Json} (hx : t.conforms options x = true)
    {type : String} (htype : t.schemaType? = some type) : Assertion.hasType type x = true := by
  have hget : n.get? "type" = some (.str type) := by
    rw [(Constraint.isBase_of_toNode hn).type, htype]
    rfl
  refine Schema.hasType_of_accepts hget ?_
  rwa [Constraint.represents_of_toNode hn x]

theorem toNode_of_valid (ht : v.type = .valid t) (hn : t.toNode options .top = .ok n) :
    v.toNode options = .ok (v.finish options (v.baseNode options n), (v.applied (v.baseNode options n)).2) := by
  have hconstraint : v.type.constraint = .ok t := by rw [ht, DeclaredType.constraint]
  exact toNode_eq_ok.2 ⟨t, _, hconstraint, Constraint.translate_eq_ok_iff.2 ⟨n, hn, rfl⟩, rfl, rfl⟩

theorem diagnostics_of_valid (hkept : v.name ∉ options.ignoreVariables) (ht : v.type = .valid t)
    (hn : t.toNode options .top = .ok n) : v.diagnostics options = (v.applied (v.baseNode options n)).2 := by
  rw [diagnostics_of_toNode_eq_ok hkept (toNode_of_valid ht hn)]

/-- How the schema of a variable comes about. -/
theorem yields_iff {s : Json} : v.Yields options s ↔ v.name ∉ options.ignoreVariables ∧
    ∃ t n, v.type = .valid t ∧ t.toNode options .top = .ok n ∧
      (v.finish options (v.baseNode options n)).toJson = s := by
  refine and_congr_right fun _ => ?_
  constructor
  · rintro ⟨m, ds, hm, rfl⟩
    obtain ⟨t, base, ht, hbase, rfl, -⟩ := toNode_eq_ok.1 hm
    obtain ⟨n, hn, rfl⟩ := Constraint.translate_eq_ok_iff.1 hbase
    exact ⟨t, n, DeclaredType.eq_valid_of_constraint ht, hn, rfl⟩
  · rintro ⟨t, n, ht, hn, rfl⟩
    exact ⟨_, _, toNode_of_valid ht hn, rfl⟩

/-- The variables that have a schema are those of well-formed types. -/
theorem emitted_iff_wellFormed {options : Options} {v : Variable} : v.Emitted options ↔
    v.name ∉ options.ignoreVariables ∧ ∃ t, v.type = .valid t ∧ t.WellFormed := by
  refine and_congr_right fun _ => ?_
  constructor
  · rintro ⟨t, base, ht, hbase⟩
    obtain ⟨n, hn, -⟩ := Constraint.translate_eq_ok_iff.1 hbase
    exact ⟨t, DeclaredType.eq_valid_of_constraint ht, Constraint.wellFormed_of_toNode hn⟩
  · rintro ⟨t, ht, hwell⟩
    obtain ⟨n, hn, -⟩ := Constraint.toNode_represents options t .top hwell
    exact ⟨t, _, by rw [ht, DeclaredType.constraint], Constraint.translate_eq_ok_iff.2 ⟨n, hn, rfl⟩⟩

end Variable

namespace Assembly

/-- A root holds the schema of each variable of a well-formed type. -/
theorem property?_of_mem {options : Options} {vs : List Variable} {a : Assembly} (h : run options vs = .ok a)
    {v : Variable} (hv : v ∈ vs) (hkept : v.name ∉ options.ignoreVariables) {t : Constraint}
    (ht : v.type = .valid t) {n : Node} (hn : t.toNode options .top = .ok n) :
    a.property? v.name = some (v.finish options (v.baseNode options n)).toJson :=
  (property?_run h v.name _).2
    ⟨v, hv, rfl, Variable.yields_iff.2 ⟨hkept, t, n, ht, hn, rfl⟩⟩

end Assembly

end VarSchema
