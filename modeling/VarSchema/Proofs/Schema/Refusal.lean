import VarSchema.Proofs.Schema.Location

/-!
# Violations and refusals

* `Node.mem_violationsAt`, `Node.violationsAt_eq_nil_iff` : the violations of a node are those of its keywords;
* `Node.PartsReport.reports` : a node reports violations of exactly the values that it refuses, each at the value's
  place or below, if the schemas inside it do;
* `Node.IsRecord.mem_violationsAt` : below its own place, a record reports what its declared properties report;
  `Node.IsRecord.mem_variableNames` : so the names that its violations concern are those of the properties refused.
-/

namespace VarSchema

namespace Node

open Schema

variable {n m : Node} {v : Json} {ip sp : String} {e : Violation}

/-- The violations of a node are those of its keywords. -/
theorem mem_violationsAt (n : Node) : e ∈ violationsAt n.toJson v ip sp ↔
    ∃ k w, n.get? k = some w ∧ e ∈ reported n.entries k w v ip sp := by
  rw [toJson, violationsAt, keywordViolations_eq_flatMap, List.mem_flatMap]
  constructor
  · rintro ⟨⟨k, w⟩, hm, he⟩
    exact ⟨k, w, n.keywords.ordered.get?_eq_some_iff.2 hm, he⟩
  · rintro ⟨k, w, hw, he⟩
    exact ⟨(k, w), Entries.mem_of_get? hw, he⟩

theorem violationsAt_eq_nil_iff (n : Node) : violationsAt n.toJson v ip sp = [] ↔
    ∀ k w, n.get? k = some w → reported n.entries k w v ip sp = [] := by
  simp only [List.eq_nil_iff_forall_not_mem, mem_violationsAt, not_exists, not_and]
  exact ⟨fun hall k w hw e => hall e k w hw, fun hall e k w hw => hall k w hw e⟩

/-- The schemas inside a node report what they refuse. -/
structure PartsReport (n : Node) : Prop where
  properties : ∀ ps, n.get? "properties" = some (.obj ps) → Entries.Ordered ps ∧ ∀ k s, (k, s) ∈ ps → Reports s
  additional : ∀ w, n.get? "additionalProperties" = some w → Reports w
  items : ∀ w, n.get? "items" = some w → ItemsReport w

theorem PartsReport.congr (h : n.PartsReport)
    (hsame : ∀ k ∈ ["properties", "additionalProperties", "items"], m.get? k = n.get? k ∨ m.get? k = none) :
    m.PartsReport := by
  have hget {k : String} (hk : k ∈ ["properties", "additionalProperties", "items"]) {w : Json}
      (hw : m.get? k = some w) : n.get? k = some w := by
    rcases hsame k hk with heq | hnone
    · rwa [heq] at hw
    · cases hnone.symm.trans hw
  exact ⟨fun ps hps => h.properties ps (hget (by decide) hps), fun w hw => h.additional w (hget (by decide) hw),
    fun w hw => h.items w (hget (by decide) hw)⟩

theorem PartsReport.declared (h : n.PartsReport) : Entries.Ordered (declaredProperties n.entries) ∧
    ∀ k s, (k, s) ∈ declaredProperties n.entries → Reports s := by
  unfold declaredProperties
  split
  · next ps hps => exact h.properties ps hps
  · exact ⟨List.Pairwise.nil, nofun⟩

theorem asserts_properties (n : Node) {w : Json} (h : n.get? "properties" = some w) (v : Json) :
    asserts n.entries "properties" w v = acceptsFields (declaredProperties n.entries) v := Schema.asserts_properties h v

/-- The declared properties are accepted if and only if their keyword, where it stands, accepts the value. -/
theorem asserts_properties_iff (n : Node) (v : Json) :
    (∀ w, n.get? "properties" = some w → asserts n.entries "properties" w v = true) ↔
      acceptsFields (declaredProperties n.entries) v = true := by
  cases hproperties : n.get? "properties" with
  | some w => simp only [Option.some.injEq, forall_eq', n.asserts_properties hproperties]
  | none =>
    have hnone : declaredProperties n.entries = [] := by
      unfold declaredProperties
      rw [show Entries.get? "properties" n.entries = none from hproperties]
    exact iff_of_true nofun (by rw [hnone, acceptsFields])

/-- What holds of all keywords, with the two that share the declared properties apart. -/
theorem forall_keywords_iff {p : String → Json → Prop} : (∀ k w, n.get? k = some w → p k w) ↔
    ((∀ w, n.get? "properties" = some w → p "properties" w) ∧
      ∀ w, n.get? "additionalProperties" = some w → p "additionalProperties" w) ∧
    ∀ k w, n.get? k = some w → k ∉ ["properties", "additionalProperties"] → p k w := by
  constructor
  · exact fun hall => ⟨⟨hall _, hall _⟩, fun k w hw _ => hall k w hw⟩
  · rintro ⟨⟨hproperties, hadditional⟩, hrest⟩ k w hw
    by_cases hk : k ∈ ["properties", "additionalProperties"]
    · simp only [List.mem_cons, List.not_mem_nil, or_false] at hk
      rcases hk with rfl | rfl
      · exact hproperties w hw
      · exact hadditional w hw
    · exact hrest k w hw hk

/-- The keywords that are checked one by one. -/
theorem PartsReport.reported_eq_nil_iff (h : n.PartsReport) {k : String} {w : Json} (hw : n.get? k = some w)
    (hk : k ∉ ["properties", "additionalProperties"]) (v : Json) (ip sp : String) :
    reported n.entries k w v ip sp = [] ↔ asserts n.entries k w v = true := by
  by_cases hitems : k = "items"
  · subst hitems
    exact (h.items w hw).eq_nil_iff n.entries v ip sp
  · by_cases hany : k = "anyOf"
    · subst hany
      have hasserts : asserts n.entries "anyOf" w v = acceptsAny w v := rfl
      rw [reported_anyOf, hasserts]
      cases acceptsAny w v <;> simp
    · have hleaf : k ∉ ["properties", "additionalProperties", "items", "anyOf"] := by
        simp only [List.mem_cons, List.not_mem_nil, or_false, not_or] at hk ⊢
        exact ⟨hk.1, hk.2, hitems, hany⟩
      rw [reported_leaf hleaf, leafViolations_eq_nil_iff, asserts_eq_holds hleaf]

/-- The two keywords of properties report nothing if and only if both accept the value, whichever of them reports the
declared properties. -/
theorem PartsReport.reported_properties_eq_nil_iff (h : n.PartsReport) (v : Json) (ip sp : String) :
    ((∀ w, n.get? "properties" = some w → reported n.entries "properties" w v ip sp = []) ∧
        ∀ w, n.get? "additionalProperties" = some w → reported n.entries "additionalProperties" w v ip sp = []) ↔
      acceptsFields (declaredProperties n.entries) v = true ∧
        ∀ w, n.get? "additionalProperties" = some w → asserts n.entries "additionalProperties" w v = true := by
  obtain ⟨hordered, hdeclared⟩ := h.declared
  cases hrestricts : restrictsAdditional n.entries with
  | false =>
    have hproperties {w : Json} (hw : n.get? "properties" = some w) :
        reported n.entries "properties" w v ip sp = [] ↔ asserts n.entries "properties" w v = true := by
      rw [reported_properties, hrestricts, if_neg (by decide), List.eq_nil_iff_forall_not_mem,
        n.asserts_properties hw, ← forall_not_declaredViolation_iff hordered hdeclared ip sp]
      simp only [mem_declared hordered]
    have hadditional {w : Json} (hw : n.get? "additionalProperties" = some w) :
        reported n.entries "additionalProperties" w v ip sp = [] ↔
          asserts n.entries "additionalProperties" w v = true := by
      rw [reported_additional, hrestricts, if_neg (by decide)]
      exact iff_of_true rfl (asserts_additional_of_not_restricts hrestricts hw v)
    rw [← n.asserts_properties_iff]
    exact and_congr (forall_congr' fun w => imp_congr_right hproperties)
      (forall_congr' fun w => imp_congr_right hadditional)
  | true =>
    obtain ⟨u, hu, -⟩ := exists_of_restrictsAdditional hrestricts
    have hnothing (w : Json) : reported n.entries "properties" w v ip sp = [] := by
      rw [reported_properties, hrestricts, if_pos rfl]
    have hu' : n.get? "additionalProperties" = some u := hu
    simp only [hnothing, implies_true, true_and, hu', Option.some.injEq, forall_eq']
    exact reported_additional_eq_nil_iff hrestricts hu (h.additional u hu) hordered hdeclared v ip sp

/-- A node reports exactly what it refuses if the schemas inside do. -/
theorem PartsReport.eq_nil_iff (h : n.PartsReport) (v : Json) (ip sp : String) :
    violationsAt n.toJson v ip sp = [] ↔ accepts n.toJson v = true := by
  rw [violationsAt_eq_nil_iff, accepts_toJson_iff]
  refine forall_keywords_iff.trans (Iff.trans (and_congr ?_ ?_) forall_keywords_iff.symm)
  · rw [h.reported_properties_eq_nil_iff, n.asserts_properties_iff]
  · exact forall_congr' fun k => forall_congr' fun w => imp_congr_right fun hw => imp_congr_right fun hk =>
      h.reported_eq_nil_iff hw hk v ip sp

theorem PartsReport.reports (h : n.PartsReport) : Reports n.toJson :=
  ⟨h.eq_nil_iff, fun _ _ _ => reaches_of_mem_violationsAt n.toJson⟩

/-! ## Records -/

variable {required : List String} {properties : Entries Json} {allowed : Bool}

theorem IsRecord.declaredProperties_eq (h : n.IsRecord required properties allowed) :
    declaredProperties n.entries = properties := by
  unfold declaredProperties
  rw [show Entries.get? "properties" n.entries = some (.obj properties) from h.properties]

theorem IsRecord.restrictsAdditional_eq (h : n.IsRecord required properties allowed) :
    restrictsAdditional n.entries = !allowed := by
  unfold restrictsAdditional
  rw [show Entries.get? "additionalProperties" n.entries = some (.bool allowed) from h.additional]
  cases allowed <;> rfl

/-- Below its own place, a record reports what its declared properties report, by whichever keyword. -/
theorem IsRecord.mem_violationsAt (h : n.IsRecord required properties allowed) (hordered : Entries.Ordered properties)
    (hbelow : e.instancePath ≠ ip) : e ∈ violationsAt n.toJson v ip sp ↔ DeclaredViolation n.entries v ip sp e := by
  have hdeclared : Entries.Ordered (declaredProperties n.entries) := h.declaredProperties_eq ▸ hordered
  rw [Node.mem_violationsAt]
  constructor
  · rintro ⟨k, w, hw, he⟩
    rcases mem_reported_cases he with hviolated | ⟨rfl, f, hother⟩ | rfl | hself
    · exact (mem_declared hdeclared).1 hviolated
    · cases h.additional.symm.trans hw
      cases hother
    · cases hw.symm.trans (h.others "items" (by decide) (by decide))
    · exact absurd hself hbelow
  · intro he
    cases allowed with
    | true =>
      refine ⟨"properties", _, h.properties, ?_⟩
      rwa [reported_properties, h.restrictsAdditional_eq, if_neg (by decide), mem_declared hdeclared]
    | false =>
      refine ⟨"additionalProperties", _, h.additional, ?_⟩
      rw [reported_additional, h.restrictsAdditional_eq, if_pos (by decide), List.mem_append, mem_entries]
      exact .inl (.inl he)

/-- The names that the violations of a record concern are those of the declared properties that are refused. -/
theorem IsRecord.mem_variableNames (h : n.IsRecord required properties allowed) (hordered : Entries.Ordered properties)
    (hreports : ∀ k s, (k, s) ∈ properties → Reports s) (k : String) :
    k ∈ (Violation.variableNames (violations n.toJson v)).toList ↔
      ∃ s x, Entries.get? k properties = some s ∧ v.field? k = some x ∧ accepts s x = false := by
  rw [Violation.variableNames, NameSet.mem_ofList, List.mem_filterMap]
  constructor
  · rintro ⟨e, he, hname⟩
    have hbelow : e.instancePath ≠ "" := by
      intro hroot
      rw [Violation.variableName?, hroot] at hname
      cases hname
    obtain ⟨l, s, x, hs, hx, he⟩ := (h.mem_violationsAt hordered hbelow).1 he
    rw [h.declaredProperties_eq] at hs
    have hl := hreports l s (Entries.mem_of_get? hs)
    have hfirst := Pointer.first?_of_reaches (hl.reaches _ _ _ e he)
    rw [Violation.variableName?, hfirst] at hname
    cases hname
    refine ⟨s, x, hs, hx, ?_⟩
    rw [← Bool.not_eq_true, ← hl.eq_nil_iff]
    exact List.ne_nil_of_mem he
  · rintro ⟨s, x, hs, hx, hrefuses⟩
    have hk := hreports k s (Entries.mem_of_get? hs)
    rw [← Bool.not_eq_true, ← hk.eq_nil_iff x (Pointer.push "" k) (Pointer.push (Pointer.push "" "properties") k)]
      at hrefuses
    obtain ⟨e, he⟩ := List.exists_mem_of_ne_nil _ hrefuses
    have hfirst : e.variableName? = some k := Pointer.first?_of_reaches (hk.reaches _ _ _ e he)
    refine ⟨e, (h.mem_violationsAt hordered ?_).2 ⟨k, s, x, h.declaredProperties_eq ▸ hs, hx, he⟩, hfirst⟩
    intro hroot
    rw [Violation.variableName?, hroot] at hfirst
    cases hfirst

end Node

end VarSchema
