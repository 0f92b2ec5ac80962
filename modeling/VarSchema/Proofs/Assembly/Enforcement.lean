import Mathlib.Data.List.Nodup
import VarSchema.Proofs.Assembly.Conditions
import VarSchema.Proofs.Assembly.Root
import VarSchema.Proofs.Schema.Translation

/-!
# Applied conditions are enforced

* `Constraint.isComparable_of_translate` : the schema of a type has only bounds that are comparable with exact ones;
* `Variable.get?_finish`, `Variable.hasType_of_accepts` : from the conditions' node to the schema of the variable;
  other than null, that accepts only values of the node's type, wrapped or not;
* `Variable.holds_of_accepts` : of what it accepts each condition is true that is recognized and not replaced;
* `Assembly.holds_of_accepts` : the same in terms of a root and what was left out of it.
-/

namespace VarSchema

/-! ## Bounds of types -/

/-- A wrapper has none of the keywords that conditions can set. -/
theorem Node.get?_wrap_of_not_mem_untouched {inner : Node} (h : inner.admitsNull = false) (name : String) {k : String}
    (hk : k ∉ Condition.untouched) : (inner.wrap name).get? k = none := by
  rw [get?_wrap h, if_neg (Condition.ne_of_not_mem_untouched hk (by decide)),
    if_neg (Condition.ne_of_not_mem_untouched hk (by decide)),
    if_neg (Condition.ne_of_not_mem_untouched hk (by decide))]

theorem Node.IsComparable.congr {n m : Node} (hm : m.IsComparable)
    (h : ∀ k side, Side.ofKeyword? k = some side → n.get? k = m.get? k) : n.IsComparable :=
  fun b side hb u hu => hm b side hb u (by rwa [← h b.1 side hb.keyword])

namespace Constraint

theorem count_of_shape : ∀ k ∈ shapeKeywords, (Side.ofKeyword? k).isSome = true → k ∈ ["minItems", "maxItems"] := by
  decide

theorem IsBase.isComparable {n : Node} {type : Option String} (h : IsBase n type) : n.IsComparable := by
  intro b side hb u hu
  have hkeyword := hb.keyword
  by_cases hcount : b.1 ∈ ["minItems", "maxItems"]
  · obtain ⟨len, rfl⟩ := h.counts b.1 hcount u hu
    have hmem : b.1 ∈ Side.countKeywords := by
      simp only [List.mem_cons, List.not_mem_nil, or_false] at hcount
      rcases hcount with heq | heq <;> rw [heq] <;> decide
    exact hb.comparableAt_length hmem len
  · have htype : b.1 ≠ "type" := by
      intro heq
      rw [heq] at hkeyword
      cases hkeyword
    have hshape : b.1 ∉ shapeKeywords := by
      intro hmem
      exact hcount (count_of_shape b.1 hmem (by rw [hkeyword]; rfl))
    rw [h.known b.1 htype hshape] at hu
    cases hu

theorem isComparable_of_translate {t : Constraint} {name : String} {nullable : Bool} {options : Options}
    {base : Node} (h : t.translate name nullable options = .ok base) : base.IsComparable := by
  obtain ⟨n, hn, -, rfl⟩ := translate_eq_ok h
  cases nullable with
  | false => exact hn.isComparable
  | true =>
    cases hadmits : n.admitsNull with
    | true =>
      rw [if_pos rfl, Node.wrap_of_admitsNull hadmits]
      exact hn.isComparable
    | false =>
      intro b side hb u hu
      have hbound := Condition.not_mem_untouched_of_bound hb.keyword
      rw [if_pos rfl, Node.get?_wrap_of_not_mem_untouched hadmits name hbound] at hu
      cases hu

end Constraint

namespace Variable

variable {options : Options} {v : Variable} {base : Node}

/-! ## The schema of a variable -/

theorem get?_setIf {k l : String} (h : k ≠ l) (w : Option Json) (n : Node) : (setIf k w n).get? l = n.get? l := by
  unfold setIf
  split
  · rw [Node.get?_set_of_ne h]
  · rfl

theorem typeName?_setIf_default (w : Option Json) (n : Node) : (setIf "default" w n).typeName? = n.typeName? := by
  rw [Node.typeName?, get?_setIf (by decide), Node.typeName?]

theorem get?_finish {k : String} (htype : k ≠ "type") (hdescription : k ≠ "description") :
    (v.finish options base).get? k = (v.applied base).1.get? k := by
  unfold finish
  split
  · rw [Node.get?_strip, if_neg fun h => htype h.2, get?_setIf (Ne.symm hdescription)]
  · rw [get?_setIf (Ne.symm hdescription)]

/-- Keywords of a type other than bounds stay. -/
theorem get?_applied {k : String} (hk : Side.ofKeyword? k = none)
    (hsets : ∀ c ∈ v.conditions, c.sets v.name k = false) (hdefault : k ≠ "default") :
    (v.applied base).1.get? k = base.get? k := by
  rw [applied, get?_applyAll hk _ hsets, get?_setIf (Ne.symm hdefault)]

/-- Other than null, the schema of a variable accepts only values of the type by which its conditions are
matched. -/
theorem hasType_of_accepts {t : Constraint}
    (h : t.translate v.name (v.isNullable options.nullableDefault) options = .ok base) {x : Json} (hx : x ≠ .null)
    (haccepts : Schema.accepts (v.finish options base).toJson x = true) {type : String}
    (htype : base.typeName? = some type) : Assertion.hasType type x = true := by
  obtain ⟨n, hn, hadmits, rfl⟩ := Constraint.translate_eq_ok h
  have htyped (hname : n.typeName? = some type) : n.get? "type" = some (.str type) := by
    rw [hn.typeName?] at hname
    rw [hn.type, hname]
    rfl
  cases hnullable : v.isNullable options.nullableDefault with
  | false =>
    rw [hnullable, if_neg (by decide)] at haccepts htype
    refine Schema.hasType_of_accepts ?_ haccepts
    have hfinish : (v.finish options n).get? "type" = (v.applied n).1.get? "type" := by
      rw [finish, hnullable]
      exact get?_setIf (by decide) _ _
    rw [hfinish, get?_applied rfl (fun _ _ => rfl) (by decide), htyped htype]
  | true =>
    rw [hnullable, if_pos rfl] at haccepts htype
    cases hwrapped : n.admitsNull with
    | true =>
      -- only the schema of any is not wrapped, and it has no type
      rw [Node.wrap_of_admitsNull hwrapped, hn.typeName?,
        Constraint.eq_any_of_isAny (hadmits.symm.trans hwrapped)] at htype
      cases htype
    | false =>
      rw [Node.typeName?_wrap hwrapped] at htype
      have hget : (v.finish options (n.wrap v.name)).get? "anyOf" =
          some (.arr [Node.nullBranch, n.titled.toJson]) := by
        rw [get?_finish (by decide) (by decide), get?_applied rfl (fun _ _ => rfl) (by decide),
          Node.get?_wrap hwrapped]
        rfl
      have hany := (Schema.accepts_toJson_iff _ x).1 haccepts "anyOf" _ hget
      rw [Node.asserts_branches] at hany
      exact Schema.hasType_of_accepts (htyped htype) (hany.resolve_left hx)

/-! ## Conditions -/

/-- Of what the schema of a variable accepts, each condition is true that is recognized and that no later one
replaces. -/
theorem holds_of_accepts {t : Constraint}
    (h : t.translate v.name (v.isNullable options.nullableDefault) options = .ok base)
    (hexact : ∀ c ∈ v.conditions, c.hasExactLiterals v.name = true) {x : Json} (hx : x ≠ .null)
    (haccepts : Schema.accepts (v.finish options base).toJson x = true) {before after : List Condition}
    {c : Condition} (hsplit : v.conditions = before ++ c :: after)
    (hreplaced : ∀ later ∈ after, later.replaces v.name c = false) {d : Node}
    (hd : c.toDelta v.name (setIf "default" v.default base) = .ok d) : c.holds v.name x = true := by
  have hstart : (setIf "default" v.default base).IsComparable :=
    (Constraint.isComparable_of_translate h).congr fun k side hk =>
      get?_setIf (by rintro rfl; cases hk) v.default base
  have hmeets : ∀ k w, d.get? k = some w → d.HoldsAt k x := by
    intro k w hw
    have hk := Condition.not_mem_untouched hd hw
    refine holdsAt_of_applyAll hstart (hsplit ▸ hexact) hreplaced hd fun u hu => ?_
    rw [← hsplit] at hu
    have hfinish : (v.finish options base).get? k = some u := by
      rw [get?_finish (Condition.ne_of_not_mem_untouched hk (by decide))
        (Condition.ne_of_not_mem_untouched hk (by decide)), applied, hu]
    have hasserts := (Schema.accepts_toJson_iff _ x).1 haccepts k u hfinish
    rwa [Schema.asserts_eq_holds fun hmem => hk (Condition.mem_untouched_of_schema k hmem)] at hasserts
  obtain ⟨r, hr⟩ := Condition.recognize_of_toDelta hd
  rw [typeName?_setIf_default] at hr
  exact (Rule.accepts_of_recognize hr (hexact c (by simp [hsplit])) fun type hbase =>
    hasType_of_accepts h hx haccepts hbase).1 (Condition.accepts_of_holdsAt hd hmeets)

end Variable

namespace Assembly

/-- **Of a value other than null that the schema of a variable accepts, each condition is true that was not left out
and that no later one replaces.** -/
theorem holds_of_property_accepts {options : Options} {vs : List Variable} {a : Assembly}
    (h : run options vs = .ok a) {v : Variable} (hv : v ∈ vs) {s : Json} (hs : a.property? v.name = some s)
    (hexact : ∀ c ∈ v.conditions, c.hasExactLiterals v.name = true) {x : Json} (hx : x ≠ .null)
    (haccepts : Schema.accepts s x = true) {before after : List Condition} {c : Condition}
    (hsplit : v.conditions = before ++ c :: after)
    (happlied : ∀ cause, .conditionNotApplicable v.name cause ∈ a.diagnostics → cause.condition ≠ c)
    (hreplaced : ∀ later ∈ after, later.replaces v.name c = false) : c.holds v.name x = true := by
  obtain ⟨u, hu, hname, hkept, n, ds, hn, rfl⟩ := (property?_run h v.name s).1 hs
  obtain ⟨p, hnames, hp, rfl⟩ := run_eq_ok h
  obtain rfl : u = v := List.inj_on_of_nodup_map hnames hu hv hname
  obtain ⟨t, base, -, hbase, rfl, rfl⟩ := Variable.toNode_eq_ok.1 hn
  cases hd : c.toDelta u.name (Variable.setIf "default" u.default base) with
  | ok d => exact Variable.holds_of_accepts hbase hexact hx haccepts hsplit hreplaced hd
  | error cause =>
    have hmem : .conditionNotApplicable u.name cause ∈ (u.applied base).2 :=
      Variable.mem_applyAll (by simp [hsplit]) hd
    refine absurd (Condition.condition_of_toDelta hd) (happlied cause ?_)
    rw [hp.diagnostics, List.mem_flatMap]
    refine ⟨u, hu, ?_⟩
    rwa [Variable.diagnostics_of_toNode_eq_ok hkept hn]

/-- A bound before a list of allowed values stays enforced. -/
theorem holds_of_property_accepts_length :
    let bound : Condition := .compare .ge (.length (.varRef "x")) (.literal (.int 2))
    let list : Condition := .call "contains" [.list [.literal (.str "ab"), .literal (.str "c")], .varRef "x"]
    let v : Variable := ⟨"x", .valid (.primitive .string), none, none, none, [bound, list]⟩
    ∃ a s, run Options.standard [v] = .ok a ∧ a.property? "x" = some s ∧ Schema.accepts s (.str "ab") = true ∧
      bound.holds "x" (.str "ab") = true := by
  intro bound list v
  let s : Json := .obj [("enum", .arr [.str "ab", .str "c"]), ("minLength", .int 2), ("type", .str "string")]
  have hrun : (run Options.standard [v]).toOption.map (fun a => (a.diagnostics.isEmpty, a.property? "x")) =
      some (true, some s) := by decide +kernel
  have hexact : ∀ c ∈ [bound, list], c.hasExactLiterals "x" = true := by decide +kernel
  have haccepts : Schema.accepts s (.str "ab") = true := by decide +kernel
  cases h : run Options.standard [v] with
  | error e => rw [h] at hrun; cases hrun
  | ok a =>
    rw [h] at hrun
    obtain ⟨hempty, hs⟩ := Prod.mk.inj (Option.some.inj hrun)
    refine ⟨a, s, rfl, hs, haccepts, ?_⟩
    have hx : Json.str "ab" ≠ .null := nofun
    have hsplit : v.conditions = [] ++ bound :: [list] := rfl
    have hreplaced : ∀ later ∈ [list], later.replaces "x" bound = false := by decide +kernel
    refine holds_of_property_accepts h (List.mem_singleton.2 rfl) hs hexact hx haccepts hsplit (fun cause hm => ?_)
      hreplaced
    rw [List.isEmpty_iff.1 hempty] at hm
    cases hm

/-- Of two lists of allowed values both are applied, and only the later one is enforced. -/
theorem property_accepts_replaced :
    let first : Condition := .compare .eq (.varRef "x") (.literal (.str "a"))
    let second : Condition := .compare .eq (.varRef "x") (.literal (.str "b"))
    let v : Variable := ⟨"x", .valid (.primitive .string), none, none, none, [first, second]⟩
    ∃ a s, run Options.standard [v] = .ok a ∧ a.diagnostics = [] ∧ a.property? "x" = some s ∧
      (∀ c ∈ v.conditions, c.hasExactLiterals "x" = true) ∧ Schema.accepts s (.str "b") = true ∧
      first.holds "x" (.str "b") = false := by
  intro first second v
  exact ⟨_, _, rfl, rfl, rfl, by decide, by decide, by decide⟩

end Assembly

end VarSchema
