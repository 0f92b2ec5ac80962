import VarSchema.Proofs.Constraint.RoundTrip
import VarSchema.Proofs.Json.Canonical

/-!
# Types of canonical values

* `Constraint.ordered_normalForm` : the normal form of an ordered value is ordered;
* `Constraint.ordered_toJson_of_ofJson` : so is the written form of a type that was read from one.
-/

namespace VarSchema

theorem Json.orderedItems_map_str : ∀ names : List String, OrderedItems (names.map .str)
  | [] => trivial
  | _ :: names => ⟨trivial, orderedItems_map_str names⟩

namespace Constraint

theorem orderedItems_normalOptional {vs : List Json} (h : Json.OrderedItems vs) :
    Json.OrderedItems (normalOptional vs) := by
  unfold normalOptional
  split
  · dsimp only
    split
    · exact trivial
    · exact ⟨Json.orderedItems_map_str _, trivial⟩
  · exact h

theorem keys_normalFields (es : List (String × Json)) : Entries.keys (normalFields es) = Entries.keys es := by
  induction es with
  | nil => rfl
  | cons e rest ih => exact congrArg (e.1 :: ·) ih

mutual
/-- The normal form of an ordered value is ordered. -/
theorem ordered_normalForm : ∀ {v : Json}, v.Ordered → (normalForm v).Ordered
  | .null, _ | .str _, _ => trivial
  | .arr parts, h => by
    rw [Json.Ordered] at h
    rw [normalForm, Json.Ordered]
    exact orderedItems_normalParts h
  | .bool _, h | .num _, h | .obj _, h => h
termination_by structural v => v

theorem orderedItems_normalParts : ∀ {parts : List Json}, Json.OrderedItems parts →
    Json.OrderedItems (normalParts parts)
  | [], h => h
  | .str kind :: args, h => by
    rw [Json.OrderedItems] at h
    rw [normalParts, Json.OrderedItems]
    refine ⟨trivial, ?_⟩
    split_ifs
    · exact orderedItems_normalTuple h.2
    · exact orderedItems_normalObject h.2
    · exact orderedItems_normalItems h.2
  | .null :: _, h | .bool _ :: _, h | .num _ :: _, h | .arr _ :: _, h | .obj _ :: _, h => h
termination_by structural parts => parts

theorem orderedItems_normalTuple : ∀ {args : List Json}, Json.OrderedItems args →
    Json.OrderedItems (normalTuple args)
  | [], h => h
  | v :: rest, h => by
    rw [Json.OrderedItems] at h
    rw [normalTuple, Json.OrderedItems]
    exact ⟨ordered_normalElements h.1, h.2⟩
termination_by structural args => args

theorem ordered_normalElements : ∀ {v : Json}, v.Ordered → (normalElements v).Ordered
  | .arr vs, h => by
    rw [Json.Ordered] at h
    rw [normalElements, Json.Ordered]
    exact orderedItems_normalItems h
  | .null, h | .bool _, h | .num _, h | .str _, h | .obj _, h => h
termination_by structural v => v

theorem orderedItems_normalObject : ∀ {args : List Json}, Json.OrderedItems args →
    Json.OrderedItems (normalObject args)
  | [], h => h
  | v :: rest, h => by
    rw [Json.OrderedItems] at h
    rw [normalObject, Json.OrderedItems]
    exact ⟨ordered_normalAttributes h.1, orderedItems_normalOptional h.2⟩
termination_by structural args => args

theorem ordered_normalAttributes : ∀ {v : Json}, v.Ordered → (normalAttributes v).Ordered
  | .obj attributes, h => by
    rw [Json.Ordered] at h
    rw [normalAttributes, Json.Ordered]
    have hkeys : (Entries.keys (normalFields attributes)).Pairwise (· < ·) := by
      rw [keys_normalFields]
      exact List.pairwise_map.2 h.1
    exact ⟨List.pairwise_map.1 hkeys, orderedFields_normalFields h.2⟩
  | .null, h | .bool _, h | .num _, h | .str _, h | .arr _, h => h
termination_by structural v => v

theorem orderedItems_normalItems : ∀ {vs : List Json}, Json.OrderedItems vs → Json.OrderedItems (normalItems vs)
  | [], h => h
  | v :: rest, h => by
    rw [Json.OrderedItems] at h
    rw [normalItems, Json.OrderedItems]
    exact ⟨ordered_normalForm h.1, orderedItems_normalItems h.2⟩
termination_by structural vs => vs

theorem orderedFields_normalFields : ∀ {es : List (String × Json)}, Json.OrderedFields es →
    Json.OrderedFields (normalFields es)
  | [], h => h
  | (k, v) :: rest, h => by
    rw [Json.OrderedFields] at h
    rw [normalFields, Json.OrderedFields]
    exact ⟨ordered_normalForm h.1, orderedFields_normalFields h.2⟩
termination_by structural es => es
end

/-- The form of a type that was read from an ordered value is ordered. -/
theorem ordered_toJson_of_ofJson {j : Json} {t : Constraint} (hj : j.Ordered) (h : ofJson j = .ok t) :
    t.toJson.Ordered := by
  rw [(wellFormed_and_toJson_of_ofJson h).2]
  exact ordered_normalForm hj

end Constraint

end VarSchema
