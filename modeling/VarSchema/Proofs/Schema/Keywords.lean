import VarSchema.Schema.Acceptance
import VarSchema.Schema.Nullable

/-!
# Nodes and acceptance, keyword by keyword

* `Entries.Ordered.get?_eq_some_iff`, `Entries.mem_keys_iff` : ordered entries as a map;
* `Node.get?_set`, `Node.get?_erase`, `Node.get?_merge` : what a node holds at a keyword after each
  operation; merging looks only at the two values at that keyword;
* `Schema.asserts` : what one keyword of a schema asserts; `Schema.accepts_obj`, `Schema.accepts_toJson_iff` : a
  schema accepts what all its keywords assert;
* `Schema.assertingKeywords` : the keywords that can refuse a value; `Schema.asserts_of_not_mem` : the
  others refuse none; `Schema.accepts_set_of_not_mem` : so setting one of them changes nothing.
-/

namespace VarSchema

variable {α : Type}

/-! ## Entries -/

namespace Entries

theorem mem_of_get? {k : String} {v : α} {es : Entries α} (h : get? k es = some v) : (k, v) ∈ es := by
  induction es with
  | nil => cases h
  | cons e es ih =>
    rw [get?_cons] at h
    split at h
    · next hk =>
      cases h
      exact List.mem_cons.2 (.inl (by rw [← hk]))
    · exact List.mem_cons_of_mem _ (ih h)

theorem mem_keys_iff {k : String} {es : Entries α} : k ∈ keys es ↔ (get? k es).isSome := by
  induction es with
  | nil => simp [keys]
  | cons e es ih =>
    rw [keys, List.map_cons, List.mem_cons, get?_cons, ← keys, ih]
    by_cases h : e.1 = k
    · simp [h]
    · simp [h, Ne.symm h]

/-- Ordered entries hold at a key what stands beside it. -/
theorem Ordered.get?_eq_some_iff {k : String} {v : α} {es : Entries α} (h : Ordered es) :
    get? k es = some v ↔ (k, v) ∈ es := by
  refine ⟨mem_of_get?, fun hm => ?_⟩
  induction es with
  | nil => cases hm
  | cons e es ih =>
    obtain ⟨h₁, h₂⟩ := List.pairwise_cons.1 h
    rw [get?_cons]
    rcases List.mem_cons.1 hm with rfl | hm
    · rw [if_pos rfl]
    · rw [if_neg (String.ne_of_lt (h₁ _ hm)), ih h₂ hm]

theorem get?_erase (k l : String) (es : Entries α) :
    get? l (erase k es) = if k = l then none else get? l es := by
  induction es with
  | nil => simp [erase]
  | cons e es ih =>
    rw [erase, List.filter_cons, ← erase, get?_cons]
    by_cases he : e.1 = k
    · rw [if_neg (by simp [he]), ih]
      by_cases hl : k = l
      · rw [if_pos hl, if_pos hl]
      · rw [if_neg hl, if_neg hl, if_neg (by rw [he]; exact hl)]
    · rw [if_pos (by simp [he]), get?_cons, ih]
      by_cases hl : k = l
      · rw [if_pos hl, if_pos hl, if_neg (by rw [← hl]; exact he)]
      · rw [if_neg hl, if_neg hl]

end Entries

/-! ## Nodes -/

namespace Node

/-- A node is given by what it holds at each keyword. -/
theorem ext_get? {m n : Node} (h : ∀ k, m.get? k = n.get? k) : m = n := by
  have hkeywords : m.keywords = n.keywords := KeyMap.ext_get? h
  cases m
  cases n
  cases hkeywords
  rfl

theorem mem_names_iff {n : Node} {k : String} : k ∈ n.names ↔ (n.get? k).isSome = true := Entries.mem_keys_iff

@[simp] theorem get?_empty (k : String) : empty.get? k = none := rfl

theorem get?_set (n : Node) (k l : String) (v : Json) :
    (n.set k v).get? l = if k = l then some v else n.get? l := KeyMap.get?_insert ..

@[simp] theorem get?_set_self (n : Node) (k : String) (v : Json) : (n.set k v).get? k = some v := by
  rw [get?_set, if_pos rfl]

theorem get?_set_of_ne {k l : String} (h : k ≠ l) (n : Node) (v : Json) : (n.set k v).get? l = n.get? l := by
  rw [get?_set, if_neg h]

theorem eq_of_get?_set_empty {k l : String} {v w : Json} (h : (empty.set k v).get? l = some w) : k = l := by
  rw [get?_set] at h
  split at h
  · next heq => exact heq
  · cases h

theorem get?_erase (n : Node) (k l : String) : (n.erase k).get? l = if k = l then none else n.get? l :=
  Entries.get?_erase ..

/-! ## Merging -/

theorem keeps_congr {n m : Node} {k : String} (h : n.get? k = m.get? k) (v : Json) :
    n.keeps k v = m.keeps k v := by
  rw [keeps, keeps, number?, number?, h]

theorem keeps_of_not_bound {k : String} (h : Side.ofKeyword? k = none) (n : Node) (v : Json) :
    n.keeps k v = false := by
  rw [keeps, h]

theorem get?_mergeKeyword (n : Node) (k l : String) (v : Json) :
    (n.mergeKeyword k v).get? l = if k = l ∧ n.keeps k v = false then some v else n.get? l := by
  rw [mergeKeyword]
  by_cases hk : n.keeps k v = true
  · rw [if_pos hk, if_neg (by simp [hk])]
  · rw [if_neg hk, get?_set]
    simp only [hk, and_true]

theorem get?_mergeAll {es : Entries Json} (h : Entries.Ordered es) (n : Node) (k : String) :
    (es.foldl (fun n e => n.mergeKeyword e.1 e.2) n).get? k =
      match Entries.get? k es with
      | none => n.get? k
      | some v => if n.keeps k v then n.get? k else some v := by
  induction es generalizing n with
  | nil => rfl
  | cons e es ih =>
    obtain ⟨h₁, h₂⟩ := List.pairwise_cons.1 h
    rw [List.foldl_cons, ih h₂, Entries.get?_cons]
    by_cases he : e.1 = k
    · -- the later entries have larger keys
      have hnone : Entries.get? k es = none :=
        Entries.get?_eq_none fun d hd hdk => String.ne_of_lt (h₁ d hd) (by rw [he, hdk])
      subst he
      rw [hnone, if_pos rfl, get?_mergeKeyword]
      cases hkeep : n.keeps e.1 e.2 <;> simp [hkeep]
    · have hsame : (n.mergeKeyword e.1 e.2).get? k = n.get? k := by
        rw [get?_mergeKeyword, if_neg fun hh => he hh.1]
      rw [if_neg he, hsame]
      cases Entries.get? k es with
      | none => rfl
      | some v => simp only [keeps_congr hsame v]

/-- Merging looks only at the two values at a keyword. -/
theorem get?_merge (n d : Node) (k : String) :
    (n.merge d).get? k =
      match d.get? k with
      | none => n.get? k
      | some v => if n.keeps k v then n.get? k else some v :=
  get?_mergeAll d.keywords.ordered n k

theorem get?_merge_cases {n d : Node} {k : String} {u : Json} (h : (n.merge d).get? k = some u) :
    n.get? k = some u ∨ d.get? k = some u := by
  rw [get?_merge] at h
  split at h
  · exact .inl h
  · next w hw =>
    split at h
    · exact .inl h
    · exact .inr (hw.trans h)

theorem get?_merge_congr {n m : Node} {k : String} (h : n.get? k = m.get? k) (d : Node) :
    (n.merge d).get? k = (m.merge d).get? k := by
  rw [get?_merge, get?_merge, h]
  simp only [keeps_congr h]

/-- Keywords that are no bounds are replaced. -/
theorem get?_merge_of_not_bound {d : Node} {k : String} (hk : Side.ofKeyword? k = none) {w : Json}
    (h : d.get? k = some w) (n : Node) : (n.merge d).get? k = some w := by
  rw [get?_merge, h]
  simp only [keeps_of_not_bound hk, Bool.false_eq_true, if_false]

theorem get?_merge_of_none {d : Node} {k : String} (h : d.get? k = none) (n : Node) :
    (n.merge d).get? k = n.get? k := by
  rw [get?_merge, h]

theorem typeName?_merge {d : Node} (h : d.get? "type" = none) (n : Node) :
    (n.merge d).typeName? = n.typeName? := by
  rw [typeName?, get?_merge_of_none h, typeName?]

end Node

/-! ## Acceptance -/

namespace Schema

open Assertion

/-- What one keyword of a schema asserts of a value; `siblings` are all keywords of the schema. -/
def asserts (siblings : Entries Json) (k : String) (w v : Json) : Bool :=
  if k = "properties" then acceptsProperties w v
  else if k = "additionalProperties" then (additionalFields siblings v).all fun e => accepts w e.2
  else if k = "items" then
    match w with
    | .arr _ => acceptsPositions w (itemsOf v)
    | _ => (itemsOf v).all fun x => accepts w x
  else if k = "anyOf" then acceptsAny w v
  else holds k w v

theorem acceptsKeywords_eq_all (siblings : Entries Json) (v : Json) :
    ∀ es : Entries Json, acceptsKeywords siblings es v = es.all fun e => asserts siblings e.1 e.2 v
  | [] => rfl
  | (k, w) :: rest => by
    rw [List.all_cons, ← acceptsKeywords_eq_all siblings v rest]
    cases w <;> rfl

/-- A node accepts what all its keywords assert. -/
theorem accepts_toJson_iff (n : Node) (v : Json) :
    accepts n.toJson v = true ↔ ∀ k w, n.get? k = some w → asserts n.entries k w v = true := by
  rw [Node.toJson, accepts, acceptsKeywords_eq_all, List.all_eq_true]
  constructor
  · intro h k w hk
    exact h (k, w) (Entries.mem_of_get? hk)
  · rintro h ⟨k, w⟩ hm
    exact h k w ((n.keywords.ordered.get?_eq_some_iff).2 hm)

/-- The keywords without schemas inside. -/
theorem asserts_eq_holds {k : String} (h : k ∉ ["properties", "additionalProperties", "items", "anyOf"])
    (siblings : Entries Json) (w v : Json) : asserts siblings k w v = holds k w v := by
  simp only [List.mem_cons, List.not_mem_nil, or_false, not_or] at h
  unfold asserts
  rw [if_neg h.1, if_neg h.2.1, if_neg h.2.2.1, if_neg h.2.2.2]

theorem accepts_obj (es : Entries Json) (v : Json) :
    accepts (.obj es) v = es.all fun e => asserts es e.1 e.2 v := acceptsKeywords_eq_all es v es

theorem asserts_type (siblings : Entries Json) (t : String) (v : Json) :
    asserts siblings "type" (.str t) v = hasType t v := by
  rw [asserts_eq_holds (by decide), holds, typeNames, List.any_cons, List.any_nil, Bool.or_false]

theorem hasType_of_accepts {n : Node} {t : String} (h : n.get? "type" = some (.str t)) {v : Json}
    (hv : accepts n.toJson v = true) : hasType t v = true := by
  have hasserts := (accepts_toJson_iff n v).1 hv "type" _ h
  rwa [asserts_type] at hasserts

theorem asserts_items (siblings : Entries Json) (n : Node) (v : Json) :
    asserts siblings "items" n.toJson v = (itemsOf v).all (accepts n.toJson) := rfl

theorem asserts_positions (siblings : Entries Json) (ss : List Json) (v : Json) :
    asserts siblings "items" (.arr ss) v = acceptsItems ss (itemsOf v) := rfl

theorem asserts_anyOf (siblings : Entries Json) (branches : List Json) (v : Json) :
    asserts siblings "anyOf" (.arr branches) v = branches.any fun s => accepts s v := by
  have hsome : acceptsSome branches v = branches.any fun s => accepts s v := by
    induction branches with
    | nil => rfl
    | cons s rest ih => rw [acceptsSome, ih, List.any_cons]
  exact hsome

/-! ## Keywords that only describe -/

/-- The keywords that can refuse a value. -/
def assertingKeywords : List String :=
  ["$ref", "additionalItems", "additionalProperties", "allOf", "anyOf", "const", "contains",
   "contentEncoding", "contentMediaType", "dependencies", "else", "enum", "exclusiveMaximum",
   "exclusiveMinimum", "format", "if", "items", "maxItems", "maxLength", "maxProperties", "maximum",
   "minItems", "minLength", "minProperties", "minimum", "multipleOf", "not", "oneOf", "pattern",
   "patternProperties", "properties", "propertyNames", "required", "then", "type", "uniqueItems"]

theorem asserts_of_not_mem {k : String} (h : k ∉ assertingKeywords) (siblings : Entries Json) (w v : Json) :
    asserts siblings k w v = true := by
  simp only [assertingKeywords, List.mem_cons, List.not_mem_nil, or_false, not_or] at h
  rw [asserts_eq_holds (by simp [h])]
  unfold holds
  split <;> simp_all

/-- Of its siblings, a keyword reads only the properties. -/
theorem asserts_congr {siblings others : Entries Json}
    (h : Entries.get? "properties" siblings = Entries.get? "properties" others) (k : String) (w v : Json) :
    asserts siblings k w v = asserts others k w v := by
  unfold asserts additionalFields propertyNames
  rw [h]

theorem accepts_set_of_not_mem {k : String} (hk : k ∉ assertingKeywords) (n : Node) (u v : Json) :
    accepts (n.set k u).toJson v = accepts n.toJson v := by
  have hproperties : k ≠ "properties" := by
    rintro rfl
    exact hk (by decide)
  rw [Bool.eq_iff_iff, accepts_toJson_iff, accepts_toJson_iff]
  refine forall_congr' fun l => ?_
  by_cases hl : k = l
  · subst hl
    simp only [asserts_of_not_mem hk, implies_true]
  · refine forall_congr' fun w => ?_
    have hsame : Entries.get? "properties" (n.set k u).entries = Entries.get? "properties" n.entries :=
      Node.get?_set_of_ne hproperties n u
    rw [Node.get?_set_of_ne hl, asserts_congr hsame]

end Schema

end VarSchema
