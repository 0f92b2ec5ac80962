import VarSchema.Proofs.Schema.Keywords

/-!
# Schemas of objects with declared properties

* `Assertion.holds_required`, `Schema.asserts_additional`, `Schema.acceptsFields_iff` : what the keywords
  about the properties of an object assert;
* `Node.IsRecord` : a node that declares and requires properties, and perhaps allows others;
  `Node.IsRecord.accepts_iff` : the values that it accepts.
-/

namespace VarSchema

theorem Json.filterMap_text?_map_str (names : List String) : (names.map str).filterMap text? = names := by
  induction names with
  | nil => rfl
  | cons k names ih => rw [List.map_cons, List.filterMap_cons, text?, ih]

theorem Assertion.holds_required (names : List String) (fields : Entries Json) :
    holds "required" (.arr (names.map .str)) (.obj fields) = true ↔ ∀ k ∈ names, k ∈ Entries.keys fields := by
  simp only [holds, missing, itemsOf, Json.filterMap_text?_map_str, List.isEmpty_iff, List.filter_eq_nil_iff,
    Entries.mem_keys_iff]
  refine forall_congr' fun k => imp_congr_right fun _ => ?_
  cases Entries.get? k fields <;> simp

namespace Schema

/-- Whether other properties are allowed decides whether each key must be declared. -/
theorem asserts_additional {siblings properties : Entries Json}
    (h : Entries.get? "properties" siblings = some (.obj properties)) (allowed : Bool) (fields : Entries Json) :
    asserts siblings "additionalProperties" (.bool allowed) (.obj fields) = true ↔
      (allowed = false → ∀ k ∈ Entries.keys fields, k ∈ Entries.keys properties) := by
  have hbool (v : Json) : accepts (.bool allowed) v = allowed := rfl
  unfold asserts additionalFields propertyNames
  rw [if_neg (by decide), if_pos rfl, h]
  cases allowed with
  | true => simp [hbool]
  | false =>
    simp only [hbool, List.all_filter, Assertion.fieldsOf, Entries.keys, List.all_eq_true, List.mem_map,
      Bool.not_not, Bool.or_false, List.contains_iff_mem, true_implies]
    constructor
    · rintro hall k ⟨e, he, rfl⟩
      exact hall e he
    · intro hall e he
      exact hall e.1 ⟨e, he, rfl⟩

theorem acceptsFields_iff {v : Json} : ∀ {properties : Entries Json}, acceptsFields properties v = true ↔
    ∀ k s, (k, s) ∈ properties → ∀ x, v.field? k = some x → accepts s x = true
  | [] => by simp [acceptsFields]
  | (k, s) :: rest => by
    rw [acceptsFields, Bool.and_eq_true, acceptsFields_iff]
    constructor
    · rintro ⟨hs, hrest⟩ l t hm x hx
      rcases List.mem_cons.1 hm with heq | hm
      · cases heq
        rw [hx] at hs
        exact hs
      · exact hrest l t hm x hx
    · intro h
      refine ⟨?_, fun l t hm => h l t (List.mem_cons_of_mem _ hm)⟩
      split
      · next x hx => exact h k s (List.mem_cons_self ..) x hx
      · rfl

end Schema

namespace Node

/-- The node declares properties of an object, requires some names and perhaps allows other keys; its other
keywords only describe. -/
structure IsRecord (n : Node) (required : List String) (properties : Entries Json) (allowed : Bool) : Prop where
  type : n.get? "type" = some (.str "object")
  required : n.get? "required" = some (.arr (required.map .str))
  properties : n.get? "properties" = some (.obj properties)
  additional : n.get? "additionalProperties" = some (.bool allowed)
  others : ∀ k ∈ Schema.assertingKeywords,
    k ∉ ["type", "required", "properties", "additionalProperties"] → n.get? k = none

variable {n : Node} {required : List String} {properties : Entries Json} {allowed : Bool}

theorem IsRecord.asserts_others (h : n.IsRecord required properties allowed) {k : String} {w : Json}
    (hk : n.get? k = some w) (hne : k ∉ ["type", "required", "properties", "additionalProperties"]) (v : Json) :
    Schema.asserts n.entries k w v = true := by
  refine Schema.asserts_of_not_mem (fun hm => ?_) _ w v
  rw [h.others k hm hne] at hk
  cases hk

/-- It accepts the objects with the required keys, declared properties that are accepted, and no other keys
unless they are allowed. -/
theorem IsRecord.accepts_iff (h : n.IsRecord required properties allowed) (v : Json) :
    Schema.accepts n.toJson v = true ↔ ∃ fields, v = .obj fields ∧
      (∀ k ∈ required, k ∈ Entries.keys fields) ∧
      Schema.acceptsFields properties (.obj fields) = true ∧
      (allowed = false → ∀ k ∈ Entries.keys fields, k ∈ Entries.keys properties) := by
  rw [Schema.accepts_toJson_iff]
  constructor
  · intro hall
    have htype := hall "type" _ h.type
    have hrequired := hall "required" _ h.required
    have hproperties := hall "properties" _ h.properties
    have hadditional := hall "additionalProperties" _ h.additional
    rw [Schema.asserts_eq_holds (by decide)] at htype hrequired
    cases v with
    | obj fields =>
      exact ⟨fields, rfl, (Assertion.holds_required required fields).1 hrequired, hproperties,
        (Schema.asserts_additional h.properties allowed fields).1 hadditional⟩
    | _ => cases htype
  · rintro ⟨fields, rfl, hrequired, hproperties, hadditional⟩ k w hk
    by_cases hne : k ∈ ["type", "required", "properties", "additionalProperties"]
    · simp only [List.mem_cons, List.not_mem_nil, or_false] at hne
      rcases hne with rfl | rfl | rfl | rfl
      · rw [h.type] at hk
        cases hk
        rfl
      · rw [h.required] at hk
        cases hk
        rw [Schema.asserts_eq_holds (by decide)]
        exact (Assertion.holds_required required fields).2 hrequired
      · rw [h.properties] at hk
        cases hk
        exact hproperties
      · rw [h.additional] at hk
        cases hk
        exact (Schema.asserts_additional h.properties allowed fields).2 hadditional
    · exact h.asserts_others hk hne _

end Node

end VarSchema
