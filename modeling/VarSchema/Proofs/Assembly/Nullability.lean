import VarSchema.Proofs.Assembly.Acceptance
import VarSchema.Proofs.Rule.Counts

/-!
# Null and nullable variables

* `Assertion.holds_null` : of the keywords of conditions, only a list of allowed values can refuse null;
* `Condition.toDelta_of_sets_enum`, `Variable.listInForce?` : merging keeps the last of the lists;
* `Assembly.property_accepts_null_iff` : so the schema of a nullable variable accepts null if and only if that list
  holds it; `Assembly.property_refuses_null` : it need not;
* `Variable.holdsAt_applied_count` : at a keyword that counts, whatever the literals, the conditions are a conjunction;
  `Variable.holdsAt_applied_baseNode` : so merging into the type is as good as merging beside it;
* `Variable.accepts_finish_iff_and` : a value is accepted if the type accepts it and the conditions by themselves do;
* `Assembly.run_declared` : declared nullable or not, a variable accepts the same values other than null.
-/

namespace VarSchema

/-! ## What null meets -/

/-- Of keywords without schemas inside, only a type and a list of allowed values can refuse null. -/
theorem Assertion.holds_null {k : String} (htype : k ≠ "type") (henum : k ≠ "enum") (w : Json) :
    holds k w .null = true := by
  have hcompares (r : Number → Number → Bool) : compares r w .null = true := by cases w <;> rfl
  have hcounts (l : String) (r : Int → Int → Bool) : counts l r w .null = true := by
    have hnone : count? l .null = none := by simp [count?, Json.text?]
    rw [counts, hnone]
    cases limit? w <;> rfl
  have hpattern : matchesPattern w .null = true := by cases w <;> rfl
  unfold holds
  split <;> simp_all [itemsOf, allDistinct, missing]

/-! ## The list of allowed values in force -/

/-- A condition that gives a list of allowed values does so on every node. -/
theorem Condition.toDelta_of_sets_enum {name : String} {c : Condition} (h : c.sets name "enum" = true) (n : Node) :
    ∃ values, c.toDelta name n = .ok (Enumeration.node values) ∧ ∀ x, c.holds name x = values.any x.equal := by
  rw [sets, if_pos rfl, Bool.or_eq_true] at h
  rw [toDelta, Rule.all, firstDelta, Rule.recognize]
  cases hmembership : Enumeration.ofMembership name c with
  | ok d =>
    obtain ⟨values, rfl, hvalues⟩ := Enumeration.ofMembership_holds hmembership
    exact ⟨values, rfl, hvalues⟩
  | error e =>
    rw [hmembership] at h
    obtain ⟨d, hd⟩ := Except.isOk_iff.1 (h.resolve_left Bool.false_ne_true)
    obtain ⟨values, rfl, hvalues⟩ := Enumeration.ofEqualities_holds hd
    exact ⟨values, by rw [firstDelta, Rule.recognize, hd]; rfl, hvalues⟩

namespace Variable

variable {options : Options} {v : Variable} {t : Constraint} {n : Node}

/-- The last condition that gives a list of allowed values, since merging keeps the last list. -/
def listInForce? (v : Variable) : Option Condition :=
  v.conditions.reverse.find? fun c => c.sets v.name "enum"

/-- After the conditions of a variable, its list of allowed values is the one in force. -/
theorem holdsAt_enum_applied {base : Node} (hbase : base.get? "enum" = none) (x : Json) :
    (v.applied base).1.HoldsAt "enum" x ↔ ∀ c, v.listInForce? = some c → c.holds v.name x = true := by
  have hstart : (setIf "default" v.default base).get? "enum" = none := by rw [get?_setIf (by decide), hbase]
  unfold listInForce?
  cases hlast : v.conditions.reverse.find? fun c => c.sets v.name "enum" with
  | none =>
    have hnone : ∀ c ∈ v.conditions, c.sets v.name "enum" = false := by
      simpa [List.find?_eq_none] using hlast
    simp only [Node.HoldsAt, applied, get?_applyAll rfl _ hnone, hstart]
    simp
  | some c =>
    obtain ⟨hsets, after, before, hsplit, hafter⟩ := List.find?_eq_some_iff_append.1 hlast
    have hconditions : v.conditions = before.reverse ++ c :: after.reverse := by
      rw [← List.reverse_reverse v.conditions, hsplit]
      simp
    have hlater : ∀ later ∈ after.reverse, later.sets v.name "enum" = false := by
      simpa using hafter
    obtain ⟨values, hd, hvalues⟩ := Condition.toDelta_of_sets_enum hsets
      (applyAll v.name before.reverse (setIf "default" v.default base)).1
    have hget : (v.applied base).1.get? "enum" = some (.arr values) := by
      rw [applied, hconditions, applyAll_append, applyAll_of_ok hd, get?_applyAll rfl _ hlater]
      exact Node.get?_merge_of_not_bound rfl (Node.get?_set_self ..) _
    simp only [Node.HoldsAt, hget, Option.some.injEq, forall_eq', hvalues]
    rfl

/-- The schema of a nullable variable accepts null if and only if the list of allowed values in force does. -/
theorem accepts_null_iff (hn : t.toNode options .top = .ok n)
    (hnullable : v.isNullable options.nullableDefault = true) :
    Schema.accepts (v.finish options (v.baseNode options n)).toJson .null = true ↔
      ∀ c, v.listInForce? = some c → c.holds v.name .null = true := by
  have htype := (accepts_typeNode_baseNode hn .null).2 (.inl ⟨hnullable, rfl⟩)
  rw [← holdsAt_enum_applied (get?_baseNode hn (by decide) (by decide)), accepts_finish_iff,
    and_iff_right ((accepts_typeNode_iff _).1 htype).1]
  constructor
  · exact fun hall => hall "enum" (by decide)
  · intro henum k hk
    by_cases heq : k = "enum"
    · rw [heq]
      exact henum
    · exact fun w _ => Assertion.holds_null (Condition.ne_of_not_mem_untouched hk (by decide)) heq w

end Variable

namespace Assembly

/-- **The schema of a nullable variable accepts null if and only if the last list of allowed values, where a condition
gives one, holds null.** -/
theorem property_accepts_null_iff {options : Options} {vs : List Variable} {a : Assembly} (h : run options vs = .ok a)
    {v : Variable} (hv : v ∈ vs) (hkept : v.name ∉ options.ignoreVariables) {t : Constraint} (ht : v.type = .valid t)
    (hwell : t.WellFormed) (hnullable : v.isNullable options.nullableDefault = true) :
    ∃ s, a.property? v.name = some s ∧
      (Schema.accepts s .null = true ↔ ∀ c, v.listInForce? = some c → c.holds v.name .null = true) := by
  obtain ⟨n, hn, -⟩ := Constraint.toNode_represents options t .top hwell
  exact ⟨_, property?_of_mem h hv hkept ht hn, Variable.accepts_null_iff hn hnullable⟩

/-- A bound and a list with null after one without it. -/
theorem property_accepts_null_listed :
    let first : Condition := .compare .eq (.varRef "x") (.literal (.str "a"))
    let bound : Condition := .compare .ge (.length (.varRef "x")) (.literal (.int 2))
    let last : Condition := .call "contains" [.list [.literal .null, .literal (.str "ab")], .varRef "x"]
    let v : Variable := ⟨"x", .valid (.primitive .string), some true, none, none, [first, bound, last]⟩
    ∃ a s, run Options.standard [v] = .ok a ∧ a.property? "x" = some s ∧ Schema.accepts s .null = true := by
  intro first bound last v
  have hok : (run Options.standard [v]).isOk = true := by decide +kernel
  have hlast : v.listInForce? = some last := by decide +kernel
  have hholds : last.holds "x" .null = true := by decide +kernel
  obtain ⟨a, h⟩ := Except.isOk_iff.1 hok
  obtain ⟨s, hs, haccepts⟩ := property_accepts_null_iff h (List.mem_singleton.2 rfl) nofun rfl trivial rfl
  refine ⟨a, s, h, hs, haccepts.2 fun c hc => ?_⟩
  rw [hlast] at hc
  cases hc
  exact hholds

/-- A single allowed value other than null refuses null. -/
theorem property_refuses_null :
    let v : Variable := ⟨"x", .valid (.primitive .string), some true, none, none,
      [.compare .eq (.varRef "x") (.literal (.str "a"))]⟩
    (Constraint.primitive .string).WellFormed ∧ v.isNullable Options.standard.nullableDefault = true ∧
      ∃ a s, run Options.standard [v] = .ok a ∧ a.diagnostics = [] ∧ a.property? "x" = some s ∧
        Schema.accepts s .null = false := by
  intro v
  exact ⟨trivial, rfl, _, _, rfl, rfl, rfl, by decide⟩

end Assembly

/-! ## Types and conditions by themselves -/

namespace Constraint

/-- A node that has the name of the type and nothing else: all that conditions read of the type. -/
def nameNode (t : Constraint) : Node :=
  match t.schemaType? with
  | some type => Node.typed type
  | none => .empty

theorem get?_nameNode (t : Constraint) {k : String} (hk : k ≠ "type") : t.nameNode.get? k = none := by
  unfold nameNode
  split
  · rw [Node.typed, Node.get?_set_of_ne (Ne.symm hk), Node.get?_empty]
  · rfl

theorem typeName?_nameNode (t : Constraint) : t.nameNode.typeName? = t.schemaType? := by
  unfold nameNode
  split
  · next type htype => rw [htype, Node.typeName?, Node.typed, Node.get?_set_self, Option.bind_some, Json.text?]
  · next htype => rw [htype, Node.typeName?, Node.get?_empty, Option.bind_none]

end Constraint

namespace Variable

variable {options : Options} {v : Variable} {t : Constraint} {n : Node}

/-- At a keyword that counts, the conditions are a conjunction, whatever their literals. -/
theorem holdsAt_applied_count {base : Node} {k : String} (hk : k ∈ Side.countKeywords)
    (hbase : ∀ u, base.get? k = some u → u.IsExactCount) (x : Json) :
    (v.applied base).1.HoldsAt k x ↔
      base.HoldsAt k x ∧ ∀ c ∈ v.conditions, ∀ d, c.toDelta v.name base = .ok d → d.HoldsAt k x := by
  obtain ⟨side, hside⟩ := Option.isSome_iff_exists.1 (Side.isSome_ofKeyword?_of_count k hk)
  have hstart : (setIf "default" v.default base).get? k = base.get? k :=
    get?_setIf (by rintro rfl; revert hk; decide) v.default base
  rw [applied, holdsAt_applyAll_of_comparable hside Json.IsExactCount (fun u w hu hw => hu.comparableAt hw side) x
    (fun c _ m d w h hw => Condition.count_of_get? h hk hw)
    (fun u w hu hw => (hbase u (hstart ▸ hu)).comparableAt hw side), Node.HoldsAt.congr hstart]
  simp only [Condition.toDelta_congr (typeName?_setIf_default v.default base)]

theorem get?_baseNode_cases (options : Options) (v : Variable) (n : Node) {k : String} (hk : k ∉ Condition.untouched) :
    (v.baseNode options n).get? k = n.get? k ∨ (v.baseNode options n).get? k = none := by
  rcases baseNode_cases options v n with hself | ⟨hadmits, hwrap⟩
  · exact .inl (by rw [hself])
  · exact .inr (by rw [hwrap, Node.get?_wrap_of_not_mem_untouched hadmits v.name hk])

/-- Merged into the schema of the type, conditions assert what they assert by themselves, beside what the schema of
the type does. -/
theorem holdsAt_applied_baseNode (hn : t.toNode options .top = .ok n)
    (hlength : ∀ ts, t = .tuple ts → ts.length ≤ Binary64.wholeReach) {k : String} (hk : k ∉ Condition.untouched)
    (x : Json) : (v.applied (v.baseNode options n)).1.HoldsAt k x ↔
      (v.baseNode options n).HoldsAt k x ∧ (v.applied t.nameNode).1.HoldsAt k x := by
  have hnone : t.nameNode.get? k = none :=
    t.get?_nameNode (Condition.ne_of_not_mem_untouched hk (by decide))
  have htype : (v.baseNode options n).typeName? = t.nameNode.typeName? := by
    rw [typeName?_baseNode hn, t.typeName?_nameNode]
  have hcases := get?_baseNode_cases options v n hk
  by_cases hcount : k ∈ Side.countKeywords
  · have hexact : ∀ u, (v.baseNode options n).get? k = some u → u.IsExactCount := by
      intro u hu
      rcases hcases with hsame | hsame
      · obtain ⟨ts, rfl, rfl⟩ := Constraint.eq_length_of_toNode hn hcount (hsame.symm.trans hu)
        exact ⟨ts.length, rfl, Number.isExact_integer (by simpa using hlength ts rfl)⟩
      · cases hsame.symm.trans hu
    have hexact' : ∀ u, t.nameNode.get? k = some u → u.IsExactCount := fun u hu => by cases hnone.symm.trans hu
    rw [holdsAt_applied_count hcount hexact, holdsAt_applied_count hcount hexact']
    simp only [Condition.toDelta_congr htype, Node.HoldsAt, hnone]
    simp
  · have hself : (v.baseNode options n).get? k = none := by
      rcases hcases with hsame | hsame
      · rw [hsame, get?_eq_none_of_toNode hn hk hcount]
      · exact hsame
    have hsame : (v.applied (v.baseNode options n)).1.get? k = (v.applied t.nameNode).1.get? k := by
      have hdefault : "default" ≠ k := (Condition.ne_of_not_mem_untouched hk (by decide)).symm
      refine (applyAll_congr ?_).2 k ?_
      · rw [typeName?_setIf_default, typeName?_setIf_default, htype]
      · rw [get?_setIf hdefault, get?_setIf hdefault, hself, hnone]
    rw [Node.HoldsAt.congr hsame]
    simp [Node.HoldsAt, hself]

/-- The schema of a variable accepts what the schema of its type accepts and the conditions by themselves do. -/
theorem accepts_finish_iff_and (hn : t.toNode options .top = .ok n)
    (hlength : ∀ ts, t = .tuple ts → ts.length ≤ Binary64.wholeReach) (x : Json) :
    Schema.accepts (v.finish options (v.baseNode options n)).toJson x = true ↔
      ((v.isNullable options.nullableDefault = true ∧ x = .null) ∨ t.conforms options x = true) ∧
        ∀ k ∉ Condition.untouched, (v.applied t.nameNode).1.HoldsAt k x := by
  rw [← accepts_typeNode_baseNode hn, accepts_typeNode_iff, accepts_finish_iff, and_assoc, ← forall₂_and]
  exact and_congr_right fun _ => forall₂_congr fun k hk => holdsAt_applied_baseNode hn hlength hk x

/-- The conditions left out are those that a node with the name of the type leaves out. -/
theorem diagnostics_of_toNode (hkept : v.name ∉ options.ignoreVariables) (ht : v.type = .valid t)
    (hn : t.toNode options .top = .ok n) : v.diagnostics options = (v.applied t.nameNode).2 := by
  rw [diagnostics_of_valid hkept ht hn]
  refine (applyAll_congr ?_).1
  rw [typeName?_setIf_default, typeName?_setIf_default, typeName?_baseNode hn, t.typeName?_nameNode]

/-! ## Declared nullable or not -/

/-- The variable, declared nullable or not. -/
def declared (v : Variable) (nullable : Bool) : Variable := { v with nullable := some nullable }

/-- Other than null, the schema of a variable accepts the same values whether it is declared nullable or not. -/
theorem accepts_declared (hn : t.toNode options .top = .ok n)
    (hlength : ∀ ts, t = .tuple ts → ts.length ≤ Binary64.wholeReach) {x : Json} (hx : x ≠ .null) :
    Schema.accepts ((v.declared true).finish options (n.wrap v.name)).toJson x = true ↔
      Schema.accepts ((v.declared false).finish options n).toJson x = true := by
  have haccepts (nullable : Bool) : Schema.accepts
      ((v.declared nullable).finish options ((v.declared nullable).baseNode options n)).toJson x = true ↔
        t.conforms options x = true ∧ ∀ k ∉ Condition.untouched, (v.applied t.nameNode).1.HoldsAt k x := by
    rw [accepts_finish_iff_and hn hlength, or_iff_right fun hnull => hx hnull.2]
    rfl
  exact (haccepts true).trans (haccepts false).symm

end Variable

namespace Assembly

variable {options : Options} {before after : List Variable} {v : Variable} {t : Constraint} {n : Node}

/-- A variable of a well-formed type that is kept stops no run, declared nullable or not. -/
theorem run_declared_isOk_iff (hkept : v.name ∉ options.ignoreVariables) (ht : v.type = .valid t)
    (hn : t.toNode options .top = .ok n) (nullable : Bool) :
    (run options (before ++ v.declared nullable :: after)).isOk = true ↔
      ((before ++ v :: after).map Variable.name).Nodup ∧ ∀ u ∈ before ++ after, Admits options u := by
  have hadmits : Admits options (v.declared nullable) := by
    intro _ _
    rw [Variable.toNode_of_valid (v := v.declared nullable) ht hn]
    rfl
  have hemitted : ∃ u ∈ before ++ v.declared nullable :: after, u.Emitted options :=
    ⟨v.declared nullable, by simp, Variable.emitted_iff.2 ⟨_, Variable.yields_iff.2 ⟨hkept, t, n, ht, hn, rfl⟩⟩⟩
  have hnames : (before ++ v.declared nullable :: after).map Variable.name =
      (before ++ v :: after).map Variable.name := by
    simp [Variable.declared]
  rw [run_isOk_iff, hnames, or_iff_right_of_imp fun _ => hemitted, and_iff_left hemitted]
  simp only [List.forall_mem_append, List.forall_mem_cons, hadmits, true_and]

theorem diagnostics_declared (hkept : v.name ∉ options.ignoreVariables) (ht : v.type = .valid t)
    (hn : t.toNode options .top = .ok n) (nullable : Bool) :
    (v.declared nullable).diagnostics options = (v.applied t.nameNode).2 :=
  Variable.diagnostics_of_toNode (v := v.declared nullable) hkept ht hn

/-- **Whether a variable is declared nullable or not, the same conditions are left out, and its schema accepts the same
values other than null.** -/
theorem run_declared (hkept : v.name ∉ options.ignoreVariables) (ht : v.type = .valid t) (hwell : t.WellFormed)
    (hlength : ∀ ts, t = .tuple ts → ts.length < Binary64.wholeReach) :
    (run options (before ++ v.declared true :: after)).isOk = (run options (before ++ v.declared false :: after)).isOk ∧
      ∀ a b, run options (before ++ v.declared true :: after) = .ok a →
        run options (before ++ v.declared false :: after) = .ok b →
        a.diagnostics = b.diagnostics ∧ ∃ s u, a.property? v.name = some s ∧ b.property? v.name = some u ∧
          ∀ x, x ≠ .null → Schema.accepts s x = Schema.accepts u x := by
  obtain ⟨n, hn, -⟩ := Constraint.toNode_represents options t .top hwell
  refine ⟨?_, fun a b ha hb => ⟨?_, ?_⟩⟩
  · rw [Bool.eq_iff_iff, run_declared_isOk_iff hkept ht hn, run_declared_isOk_iff hkept ht hn]
  · obtain ⟨p, -, hp, rfl⟩ := run_eq_ok ha
    obtain ⟨q, -, hq, rfl⟩ := run_eq_ok hb
    simp only [hp.diagnostics, hq.diagnostics, List.flatMap_append, List.flatMap_cons, diagnostics_declared hkept ht hn]
  · have hmem (nullable : Bool) : v.declared nullable ∈ before ++ v.declared nullable :: after := by simp
    refine ⟨_, _, property?_of_mem ha (hmem true) hkept ht hn, property?_of_mem hb (hmem false) hkept ht hn,
      fun x hx => ?_⟩
    rw [Bool.eq_iff_iff]
    exact Variable.accepts_declared hn (fun ts hts => Nat.le_of_lt (hlength ts hts)) hx

/-- A tuple whose length is bounded by conditions as well, and a condition that no rule recognizes. -/
theorem run_declared_tuple :
    let bound (op : Comparison) (i : Int) : Condition := .compare op (.length (.varRef "x")) (.literal (.int i))
    let t : Constraint := .tuple [.primitive .string, .primitive .any]
    let v : Variable := ⟨"x", .valid t, none, none, none, [bound .ge 1, bound .lt 2, bound .ne 5]⟩
    ∃ a b s u, run Options.standard [v.declared true] = .ok a ∧ run Options.standard [v.declared false] = .ok b ∧
      a.diagnostics = b.diagnostics ∧ a.property? "x" = some s ∧ b.property? "x" = some u ∧
      Schema.accepts s (.arr [.str "p"]) = Schema.accepts u (.arr [.str "p"]) := by
  intro bound t v
  have hwell : t.WellFormed := ⟨trivial, trivial, trivial⟩
  have hlength : ∀ ts, t = .tuple ts → ts.length < Binary64.wholeReach := by
    intro ts hts
    rw [← Constraint.tuple.inj hts]
    decide +kernel
  have hok : (run Options.standard [v.declared true]).isOk = true := by decide +kernel
  obtain ⟨hsame, hruns⟩ := @run_declared Options.standard [] [] v t nofun rfl hwell hlength
  obtain ⟨a, ha⟩ := Except.isOk_iff.1 hok
  obtain ⟨b, hb⟩ := Except.isOk_iff.1 (hsame.symm.trans hok)
  obtain ⟨hdiagnostics, s, u, hs, hu, haccepts⟩ := hruns a b ha hb
  exact ⟨a, b, s, u, ha, hb, hdiagnostics, hs, hu, haccepts _ nofun⟩

end Assembly

end VarSchema
