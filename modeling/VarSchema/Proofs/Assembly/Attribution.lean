import VarSchema.Proofs.Assembly.Acceptance
import VarSchema.Proofs.Schema.Refusal

/-!
# Violations and the variables they concern

* `Constraint.partsReport_of_toNode`, `Variable.partsReport_finish` : the schemas of types and of variables report
  violations of exactly the values that they refuse;
* `Assembly.mem_variableNames_iff` : so the violations of an input concern the variables whose value is refused.
-/

namespace VarSchema

/-! ## Types -/

namespace Constraint

variable {options : Options}

theorem partsReport_primitiveNode (k : Primitive) (position : Position) : (primitiveNode k position).PartsReport := by
  have hnone : ∀ l ∈ ["properties", "additionalProperties", "items"], (primitiveNode k position).get? l = none := by
    cases k <;> cases position <;> decide +kernel
  have hget {l : String} (hl : l ∈ ["properties", "additionalProperties", "items"]) {w : Json}
      (hw : (primitiveNode k position).get? l = some w) : False := by
    cases (hnone l hl).symm.trans hw
  exact ⟨fun _ hps => (hget (by decide) hps).elim, fun _ hw => (hget (by decide) hw).elim,
    fun _ hw => (hget (by decide) hw).elim⟩

mutual
/-- The schemas inside the schema of a type report what they refuse. -/
theorem partsReport_of_toNode : ∀ {t : Constraint} {position : Position} {n : Node}, t.Ordered →
    toNode options position t = .ok n → n.PartsReport
  | .primitive k, position, _, _, h => by
    cases h
    exact partsReport_primitiveNode k position
  | .list t, _, _, ht, h | .set t, _, _, ht, h => by
    obtain ⟨m, hm, rfl⟩ := Except.map_eq_ok.1 h
    have hitems := (partsReport_of_toNode (t := t) ht (within_eq_ok.1 hm)).reports
    refine ⟨fun _ hps => (by cases hps), fun _ hw => (by cases hw), fun w hw => ?_⟩
    cases hw
    exact hitems
  | .map t, _, _, ht, h => by
    obtain ⟨m, hm, rfl⟩ := Except.map_eq_ok.1 h
    have hvalues := (partsReport_of_toNode (t := t) ht (within_eq_ok.1 hm)).reports
    refine ⟨fun _ hps => (by cases hps), fun w hw => ?_, fun _ hw => (by cases hw)⟩
    cases hw
    exact hvalues
  | .tuple ts, _, _, ht, h => by
    obtain ⟨ss, hss, rfl⟩ := Except.map_eq_ok.1 h
    refine ⟨fun _ hps => (by cases hps), fun _ hw => (by cases hw), fun w hw => ?_⟩
    cases hw
    exact reports_of_itemNodes ht hss
  | .object fields optional, _, _, ht, h => by
    rw [toNode] at h
    split at h
    · cases h
    · obtain ⟨properties, hproperties, rfl⟩ := Except.map_eq_ok.1 h
      have hkeys : (Entries.keys properties).Pairwise (· < ·) := by
        rw [keys_of_fieldNodes hproperties]
        exact List.pairwise_map.2 ht.1
      have hordered : Entries.Ordered properties := List.pairwise_map.1 hkeys
      refine ⟨fun ps hps => ?_, fun w hw => ?_, fun _ hw => (by cases hw)⟩
      · cases hps
        exact ⟨hordered, reports_of_fieldNodes ht.2 hproperties⟩
      · cases hw
        exact Schema.reports_bool _
termination_by structural t => t

theorem reports_of_fieldNodes : ∀ {fields : List (String × Constraint)} {properties : Entries Json},
    OrderedFields fields → fieldNodes options fields = .ok properties → ∀ k s, (k, s) ∈ properties → Schema.Reports s
  | [], _, _, h, _, _, hs => by
    cases h
    cases hs
  | (l, t) :: rest, _, ht, h, k, s, hs => by
    obtain ⟨n, others, hn, hothers, rfl⟩ := fieldNodes_cons_eq_ok.1 h
    rcases List.mem_cons.1 hs with heq | hs
    · cases heq
      exact (partsReport_of_toNode ht.1 hn).reports
    · exact reports_of_fieldNodes ht.2 hothers k s hs
termination_by structural fields => fields

theorem reports_of_itemNodes : ∀ {ts : List Constraint} {i : Nat} {ss : List Json}, OrderedItems ts →
    itemNodes options i ts = .ok ss → ∀ s ∈ ss, Schema.Reports s
  | [], _, _, _, h, _, hs => by
    cases h
    cases hs
  | t :: rest, _, _, ht, h, s, hs => by
    obtain ⟨n, others, hn, hothers, rfl⟩ := itemNodes_cons_eq_ok.1 h
    rcases List.mem_cons.1 hs with rfl | hs
    · exact (partsReport_of_toNode ht.1 hn).reports
    · exact reports_of_itemNodes ht.2 hothers s hs
termination_by structural ts => ts
end

end Constraint

/-! ## Variables -/

namespace Variable

variable {options : Options} {v : Variable} {t : Constraint} {n : Node}

theorem partsReport_finish (ht : t.Ordered) (hn : t.toNode options .top = .ok n) :
    (v.finish options (v.baseNode options n)).PartsReport := by
  refine (Constraint.partsReport_of_toNode ht hn).congr fun k hk => ?_
  have hkinds : ∀ l ∈ ["properties", "additionalProperties", "items"],
      l ∈ Condition.untouched ∧ l ∉ ["default", "description", "type", "anyOf", "title"] := by decide
  obtain ⟨huntouched, hother⟩ := hkinds k hk
  simp only [List.mem_cons, List.not_mem_nil, or_false, not_or] at hother
  obtain ⟨hdefault, hdescription, htype, hbranches, htitle⟩ := hother
  rw [get?_finish_of_untouched huntouched hdefault hdescription, get?_typeNode htype]
  rcases baseNode_cases options v n with hself | ⟨hadmits, hwrap⟩
  · exact .inl (by rw [hself])
  · exact .inr (by rw [hwrap, Node.get?_wrap hadmits, if_neg htype, if_neg hbranches, if_neg htitle])

end Variable

/-! ## The root -/

namespace Assembly

/-- **The names that the violations of an input concern are those of the variables whose value in the input is refused
by their schema in the root**; a name that is missing or not declared, or an input that is no object, adds none. -/
theorem mem_variableNames_iff {options : Options} {vs : List Variable} {a : Assembly} (h : run options vs = .ok a)
    (hroot : ∀ k ∈ options.rootProperties.keys, k ∉ Schema.assertingKeywords)
    (hordered : ∀ v ∈ vs, ∀ t, v.type = .valid t → t.Ordered) (input : Json) (k : String) :
    k ∈ (Violation.variableNames (Schema.violations a.schema.toJson input)).toList ↔
      ∃ fields x s, input = .obj fields ∧ Entries.get? k fields = some x ∧ a.property? k = some s ∧
        Schema.accepts s x = false := by
  obtain ⟨p, -, hp, rfl⟩ := run_eq_ok h
  have hreports : ∀ l s, (l, s) ∈ p.properties.entries → Schema.Reports s := by
    intro l s hs
    obtain ⟨v, hv, -, hyields⟩ := (hp.properties l s).1 (p.properties.ordered.get?_eq_some_iff.2 hs)
    obtain ⟨-, t, n, ht, hn, rfl⟩ := Variable.yields_iff.1 hyields
    exact (Variable.partsReport_finish (hordered v hv t ht) hn).reports
  rw [(isRecord_root hroot p).mem_variableNames p.properties.ordered hreports]
  simp only [property?_root]
  constructor
  · rintro ⟨s, x, hs, hx, hrefuses⟩
    cases input with
    | obj fields => exact ⟨fields, x, s, rfl, hx, hs, hrefuses⟩
    | _ => cases hx
  · rintro ⟨fields, x, s, rfl, hx, hs, hrefuses⟩
    exact ⟨s, x, hs, hx, hrefuses⟩

/-- An empty name with a violation further inside, and names with a slash and a tilde of which one has none. -/
theorem mem_variableNames_iff_escaped :
    let u : Variable := ⟨"", .valid (.object [("n", .primitive .number)] NameSet.empty), none, none, none, []⟩
    let v : Variable := ⟨"a/b", .valid (.primitive .string), some true, none, none, []⟩
    let w : Variable := ⟨"~1", .valid (.list (.primitive .bool)), none, none, none, []⟩
    let input : Json := .obj [("", .obj [("n", .bool true)]), ("a/b", .int 1), ("~1", .arr [.bool true]), ("c", .null)]
    ∃ a, run Options.standard [u, v, w] = .ok a ∧
      let names := (Violation.variableNames (Schema.violations a.schema.toJson input)).toList
      "" ∈ names ∧ "a/b" ∈ names ∧ "~1" ∉ names := by
  intro u v w input
  let refuses (a : Assembly) (k : String) (x : Json) : Bool := (a.property? k).any fun s => !Schema.accepts s x
  have hcheck : ((run Options.standard [u, v, w]).toOption.any fun a => refuses a "" (.obj [("n", .bool true)]) &&
      refuses a "a/b" (.int 1) && !refuses a "~1" (.arr [.bool true])) = true := by decide +kernel
  have hordered : ∀ r ∈ [u, v, w], ∀ t, r.type = .valid t → t.Ordered := by
    intro r hr t ht
    simp only [List.mem_cons, List.not_mem_nil, or_false] at hr
    rcases hr with rfl | rfl | rfl
    · cases ht
      exact ⟨List.pairwise_singleton .., trivial, trivial⟩
    · cases ht
      exact trivial
    · cases ht
      exact trivial
  cases ha : run Options.standard [u, v, w] with
  | error e =>
    rw [ha] at hcheck
    cases hcheck
  | ok a =>
    rw [ha] at hcheck
    simp only [Except.toOption, Option.any_some, Bool.and_eq_true, Bool.not_eq_true', refuses, Option.any_eq_true,
      Option.any_eq_false] at hcheck
    obtain ⟨⟨⟨s, hs, hsrefuses⟩, s', hs', hs'refuses⟩, hnone⟩ := hcheck
    have hiff := mem_variableNames_iff ha nofun hordered input
    refine ⟨a, rfl, (hiff "").2 ⟨_, _, s, rfl, rfl, hs, by simpa using hsrefuses⟩,
      (hiff "a/b").2 ⟨_, _, s', rfl, rfl, hs', by simpa using hs'refuses⟩, ?_⟩
    rw [hiff]
    rintro ⟨fields, x, t, hfields, hx, ht, hrefuses⟩
    obtain rfl := Json.obj.inj hfields
    cases hx
    have haccepts := hnone t ht
    rw [hrefuses] at haccepts
    cases haccepts

end Assembly

end VarSchema
