import VarSchema.Proofs.Assembly.Acceptance

/-!
# Conforming objects are accepted

* `Variable.MeetsConditions` : a value makes true every condition that some rule recognizes;
* `Variable.accepts_of_conforms` : the schema of a variable accepts what conforms to its type and meets its
  conditions, in whatever order they are merged;
* `Assembly.run_accepts_of_conforms` : the root accepts the objects of such values.
-/

namespace VarSchema

namespace Variable

/-- The value makes true every condition that some rule recognizes for the type. -/
def MeetsConditions (v : Variable) (t : Constraint) (x : Json) : Prop :=
  ∀ c ∈ v.conditions, ∀ r : Rule, (r.recognize v.name t.schemaType? c).isOk = true → c.holds v.name x = true

variable {options : Options} {v : Variable} {t : Constraint} {n : Node}

/-- The schema of a variable accepts what conforms to its type and meets its conditions. -/
theorem accepts_of_conforms (hn : t.toNode options .top = .ok n)
    (hexact : ∀ c ∈ v.conditions, c.hasExactLiterals v.name = true) {x : Json} (hx : t.conforms options x = true)
    (hmeets : v.MeetsConditions t x) :
    Schema.accepts (v.finish options (v.baseNode options n)).toJson x = true := by
  have htypeName := typeName?_baseNode (v := v) hn
  refine accepts_finish_of_accepts ((accepts_typeNode_baseNode hn x).2 (.inr hx)) fun c hc d hd => ?_
  obtain ⟨r, hr⟩ := Condition.recognize_of_toDelta hd
  rw [htypeName] at hr
  have hholds : c.holds v.name x = true := hmeets c hc r (by rw [hr]; rfl)
  exact (Rule.accepts_of_recognize hr (hexact c hc) fun type htype => hasType_of_conforms hn hx htype).2 hholds

end Variable

namespace Assembly

/-- **A root accepts every object that has the variables that must be given, no other keys than variables unless
these are allowed, and values that conform to the types and make true every condition that some rule recognizes.** -/
theorem run_accepts_of_conforms {options : Options} {vs : List Variable} {a : Assembly} (h : run options vs = .ok a)
    (hroot : ∀ k ∈ options.rootProperties.keys, k ∉ Schema.assertingKeywords)
    (hexact : ∀ v ∈ vs, ∀ c ∈ v.conditions, c.hasExactLiterals v.name = true) {fields : Entries Json}
    (hgiven : ∀ v ∈ vs, v.MustBeGiven options → v.name ∈ Entries.keys fields)
    (hknown : options.allowAdditionalProperties = false → ∀ k ∈ Entries.keys fields,
      ∃ v ∈ vs, v.name = k ∧ v.Emitted options)
    (hvalues : ∀ v ∈ vs, v.Emitted options → ∀ x, Entries.get? v.name fields = some x → ∀ t, v.type = .valid t →
      t.conforms options x = true ∧ v.MeetsConditions t x) :
    Schema.accepts a.schema.toJson (.obj fields) = true := by
  obtain ⟨p, -, hp, rfl⟩ := run_eq_ok h
  refine ((isRecord_root hroot p).accepts_iff _).2 ⟨fields, rfl, ?_, ?_, ?_⟩
  · intro k hk
    rw [List.mem_mergeSort, hp.required] at hk
    obtain ⟨v, hv, rfl, hmust⟩ := hk
    exact hgiven v hv hmust
  · rw [Schema.acceptsFields_iff]
    intro k s hm x hx
    obtain ⟨v, hv, rfl, hs⟩ := (hp.properties k s).1 (p.properties.ordered.get?_eq_some_iff.2 hm)
    obtain ⟨hkept, t, n, ht, hn, rfl⟩ := Variable.yields_iff.1 hs
    obtain ⟨hconforms, hmeets⟩ := hvalues v hv (Variable.emitted_iff.2 ⟨_, hs⟩) x hx t ht
    exact Variable.accepts_of_conforms hn (hexact v hv) hconforms hmeets
  · intro hclosed k hk
    obtain ⟨v, hv, rfl, hemitted⟩ := hknown hclosed k hk
    obtain ⟨s, hs⟩ := Variable.emitted_iff.1 hemitted
    rw [Entries.mem_keys_iff, Option.isSome_iff_exists]
    exact ⟨s, (hp.properties v.name s).2 ⟨v, hv, rfl, hs⟩⟩

/-- A redundant bound, and a condition that no rule recognizes and that is false of the value. -/
theorem run_accepts_of_conforms_redundant :
    let bound (i : Int) : Condition := .compare .ge (.length (.varRef "x")) (.literal (.int i))
    let other : Condition := .compare .ne (.varRef "x") (.literal (.str "ab"))
    let v : Variable := ⟨"x", .valid (.primitive .string), some true, none, none, [bound 2, other, bound 1]⟩
    ∃ a, run Options.standard [v] = .ok a ∧
      Schema.accepts a.schema.toJson (.obj [("x", .str "ab")]) = true := by
  intro bound other v
  have hok : (run Options.standard [v]).isOk = true := by decide +kernel
  have hexact : ∀ c ∈ v.conditions, c.hasExactLiterals "x" = true := by decide +kernel
  have hall : ∀ c ∈ v.conditions, ∀ r ∈ Rule.all, (r.recognize "x" (some "string") c).isOk = true →
      c.holds "x" (.str "ab") = true := by decide +kernel
  have hmeets : v.MeetsConditions (.primitive .string) (.str "ab") := fun c hc r =>
    hall c hc r (by cases r <;> decide)
  cases h : run Options.standard [v] with
  | error e =>
    rw [h] at hok
    cases hok
  | ok a =>
    refine ⟨a, rfl, run_accepts_of_conforms h (by decide) ?_ ?_ nofun ?_⟩
    · exact fun u hu => List.mem_singleton.1 hu ▸ hexact
    · exact fun u hu _ => List.mem_singleton.1 hu ▸ List.mem_singleton.2 rfl
    · intro u hu _ x hx t ht
      obtain rfl := List.mem_singleton.1 hu
      cases hx
      cases ht
      exact ⟨rfl, hmeets⟩

end Assembly

end VarSchema
